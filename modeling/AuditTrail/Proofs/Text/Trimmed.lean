import Mathlib.Data.List.DropRight
import AuditTrail.Text.Blank

/-!
# Proofs/Text/Trimmed — texts without blanks at their ends, and the pieces between marks

    blanks ++ text ──strip──▸ what `text` is stripped to      (`strip_append_of_blank`)
    text ──splitOn──▸ pieces without the mark                 (`forall_mem_splitOn`)

Stripping leaves exactly the trimmed texts alone (`strip_eq_self_iff`), and what it leaves is trimmed.
-/

namespace AuditTrail.Text

variable {cs lead : List Char}

/-! ## Blanks at the ends -/

/-- **A trimmed text**: neither its first nor its last character is a blank. -/
def IsTrimmed (cs : List Char) : Prop :=
  (∀ c ∈ cs.head?, isBlank c = false) ∧ ∀ c ∈ cs.getLast?, isBlank c = false

/-- Stripping at the end, read from the end. -/
theorem stripRight_concat (cs : List Char) (c : Char) :
    stripRight (cs ++ [c]) = if isBlank c then stripRight cs else cs ++ [c] := by
  induction cs with
  | nil => rfl
  | cons first rest ih =>
    rw [List.cons_append, stripRight, ih]
    by_cases h : isBlank c = true
    · rw [if_pos h, if_pos h, stripRight]
    · rw [if_neg h, if_neg h]
      cases rest <;> rfl

theorem stripRight_eq_rdropWhile (cs : List Char) : stripRight cs = cs.rdropWhile isBlank := by
  induction cs using List.reverseRecOn with
  | nil => rfl
  | append_singleton cs c ih => rw [stripRight_concat, List.rdropWhile_concat, ih]

theorem stripRight_eq_self_iff : stripRight cs = cs ↔ ∀ c ∈ cs.getLast?, isBlank c = false := by
  rw [stripRight_eq_rdropWhile, List.rdropWhile_eq_self_iff]
  cases cs using List.reverseRecOn <;> simp

/-- What is stripped ends in no blank and starts as before. -/
theorem isTrimmed_strip (cs : List Char) : IsTrimmed (strip cs) := by
  constructor
  · intro c hc
    obtain ⟨after, hafter⟩ := List.rdropWhile_prefix isBlank (cs.dropWhile isBlank)
    rw [strip, stripRight_eq_rdropWhile, Option.mem_def] at hc
    have hnot := List.head?_dropWhile_not isBlank cs
    rw [← hafter, List.head?_append, hc] at hnot
    exact hnot
  · rw [← stripRight_eq_self_iff, strip, stripRight_eq_rdropWhile, stripRight_eq_rdropWhile]
    exact List.rdropWhile_idempotent isBlank _

/-- **Stripping leaves trimmed texts alone**, and no others. -/
theorem strip_eq_self_iff : strip cs = cs ↔ IsTrimmed cs := by
  constructor
  · intro h
    rw [← h]
    exact isTrimmed_strip cs
  · rintro ⟨hfirst, hlast⟩
    have hlead : cs.dropWhile isBlank = cs := by
      cases cs with
      | nil => rfl
      | cons c rest => rw [List.dropWhile_cons_of_neg (by simp [hfirst c rfl])]
    rw [strip, hlead, stripRight_eq_self_iff]
    exact hlast

instance (cs : List Char) : Decidable (IsTrimmed cs) := decidable_of_iff (strip cs = cs) strip_eq_self_iff

/-- Blanks in front do not matter. -/
theorem strip_append_of_blank (h : ∀ c ∈ lead, isBlank c = true) : strip (lead ++ cs) = strip cs := by
  rw [strip, List.dropWhile_append_of_pos h, strip]

/-- Blanks in front of the first of some texts do not matter to what these are stripped to. -/
theorem map_strip_modifyHead (h : ∀ c ∈ lead, isBlank c = true) (texts : List (List Char)) :
    (texts.modifyHead (lead ++ ·)).map strip = texts.map strip := by
  cases texts with
  | nil => rfl
  | cons first rest => rw [List.modifyHead_cons, List.map_cons, List.map_cons, strip_append_of_blank h]

/-- Nothing is added. -/
theorem strip_subset (cs : List Char) : strip cs ⊆ cs := by
  rw [strip, stripRight_eq_rdropWhile]
  exact fun c hc => (List.dropWhile_sublist _).subset ((List.rdropWhile_prefix isBlank _).subset hc)

/-- Nothing but blanks is removed. -/
theorem mem_strip_iff {c : Char} (hc : isBlank c = false) : c ∈ strip cs ↔ c ∈ cs := by
  have hdrop : ∀ text : List Char, c ∈ text.dropWhile isBlank ↔ c ∈ text := by
    intro text
    have hnot : c ∉ text.takeWhile isBlank := fun hmem =>
      Bool.false_ne_true (hc.symm.trans (List.mem_takeWhile_imp hmem))
    conv_rhs => rw [← List.takeWhile_append_dropWhile (p := isBlank) (l := text)]
    rw [List.mem_append, or_iff_right hnot]
  rw [strip, stripRight_eq_rdropWhile, List.rdropWhile, List.mem_reverse, hdrop, List.mem_reverse, hdrop]

/-! ## Blanks that are joined -/

/-- A joined text holds no blank. -/
theorem isBlank_of_mem_joinBlanksFrom {mark : Char} (hmark : isBlank mark = false) (inside : Bool)
    (cs : List Char) : ∀ c ∈ joinBlanksFrom mark inside cs, isBlank c = false := by
  induction cs generalizing inside with
  | nil => exact nofun
  | cons first rest ih =>
    rw [joinBlanksFrom]
    split
    case isTrue =>
      split
      case isTrue => exact ih true
      case isFalse => exact List.forall_mem_cons.mpr ⟨hmark, ih true⟩
    case isFalse h => exact List.forall_mem_cons.mpr ⟨Bool.eq_false_iff.mpr h, ih false⟩

/-- Nothing but blanks is joined. -/
theorem mem_joinBlanksFrom_iff {mark c : Char} (hc : isBlank c = false) (hmark : c ≠ mark) (inside : Bool)
    (cs : List Char) : c ∈ joinBlanksFrom mark inside cs ↔ c ∈ cs := by
  induction cs generalizing inside with
  | nil => exact Iff.rfl
  | cons first rest ih =>
    rw [joinBlanksFrom, List.mem_cons]
    split
    case isTrue h =>
      have hfirst : c ≠ first := fun heq => Bool.false_ne_true (hc.symm.trans (heq ▸ h))
      rw [or_iff_right hfirst]
      split
      case isTrue => exact ih true
      case isFalse => rw [List.mem_cons, or_iff_right hmark, ih true]
    case isFalse => rw [List.mem_cons, ih false]

/-! ## Pieces between marks -/

/-- **The pieces of a text** are without the mark, and made of its characters. -/
theorem forall_mem_splitOn (mark : Char) (cs : List Char) :
    ∀ piece ∈ cs.splitOn mark, mark ∉ piece ∧ piece ⊆ cs := by
  induction cs with
  | nil => simp
  | cons c rest ih =>
    rw [List.splitOn_cons_eq_if_modifyHead]
    split
    case isTrue h =>
      refine List.forall_mem_cons.mpr ⟨⟨List.not_mem_nil, List.nil_subset _⟩, fun piece hpiece => ?_⟩
      exact ⟨(ih piece hpiece).1, List.subset_cons_of_subset c (ih piece hpiece).2⟩
    case isFalse h =>
      obtain ⟨first, others, hsplit⟩ := List.exists_cons_of_ne_nil (List.splitOn_ne_nil mark rest)
      rw [hsplit, List.forall_mem_cons] at ih
      rw [hsplit, List.modifyHead_cons, List.forall_mem_cons]
      obtain ⟨⟨hfirst, hsub⟩, hothers⟩ := ih
      refine ⟨⟨?_, List.cons_subset_cons c hsub⟩, fun piece hpiece => ?_⟩
      · rw [List.mem_cons, not_or]
        exact ⟨fun heq => h (beq_iff_eq.mpr heq.symm), hfirst⟩
      · exact ⟨(hothers piece hpiece).1, List.subset_cons_of_subset c (hothers piece hpiece).2⟩

/-- What is in front and without the mark belongs to the first piece. -/
theorem splitOn_append_of_not_mem {mark : Char} (h : mark ∉ lead) (cs : List Char) :
    (lead ++ cs).splitOn mark = (cs.splitOn mark).modifyHead (lead ++ ·) := by
  induction lead with
  | nil => exact (congrFun List.modifyHead_id _).symm
  | cons c rest ih =>
    rw [List.mem_cons, not_or] at h
    rw [List.cons_append, List.splitOn_cons_eq_if_modifyHead, if_neg (by simpa using Ne.symm h.1),
      ih h.2, List.modifyHead_modifyHead]
    rfl

/-- **Texts between marks with blanks behind them are found again** between the marks, if they are trimmed
and without the mark. -/
theorem map_strip_splitOn_intercalate {mark : Char} (hmark : isBlank mark = false)
    (hlead : ∀ c ∈ lead, isBlank c = true) {texts : List (List Char)} (hne : texts ≠ [])
    (h : ∀ text ∈ texts, mark ∉ text ∧ IsTrimmed text) :
    (((mark :: lead).intercalate texts).splitOn mark).map strip = texts := by
  have hnot : mark ∉ lead := fun hmem => Bool.false_ne_true (hmark.symm.trans (hlead mark hmem))
  induction texts with
  | nil => exact absurd rfl hne
  | cons first rest ih =>
    obtain ⟨⟨hfirst, htrimmed⟩, hrest⟩ := List.forall_mem_cons.mp h
    cases rest with
    | nil =>
      rw [List.intercalate_singleton, List.splitOn_eq_singleton hfirst, List.map_singleton,
        strip_eq_self_iff.mpr htrimmed]
    | cons second others =>
      rw [List.intercalate_cons_cons, List.append_assoc, List.cons_append,
        List.splitOn_append_cons_self_of_not_mem hfirst, splitOn_append_of_not_mem hnot, List.map_cons,
        map_strip_modifyHead hlead, ih (List.cons_ne_nil _ _) hrest, strip_eq_self_iff.mpr htrimmed]

/-! ## Joined texts -/

section Joined

variable {sep first : List Char} {texts : List (List Char)}

theorem head?_intercalate (h : first ≠ []) : (sep.intercalate (first :: texts)).head? = first.head? := by
  cases texts with
  | nil => rw [List.intercalate_singleton]
  | cons second rest =>
    rw [List.intercalate_cons_cons, List.append_assoc, List.head?_append_of_ne_nil _ h]

theorem getLast?_intercalate (h : [] ∉ texts) :
    (sep.intercalate texts).getLast? = texts.getLast?.bind List.getLast? := by
  induction texts with
  | nil => rfl
  | cons first rest ih =>
    cases rest with
    | nil => rw [List.intercalate_singleton]; rfl
    | cons second others =>
      have hlast := ih fun hmem => h (List.mem_cons_of_mem first hmem)
      have hsecond : second ≠ [] := fun heq => h (heq ▸ List.mem_cons_of_mem first List.mem_cons_self)
      have hne : sep.intercalate (second :: others) ≠ [] := by
        rw [ne_eq, ← List.head?_eq_none_iff, head?_intercalate hsecond, List.head?_eq_none_iff]
        exact hsecond
      rw [List.intercalate_cons_cons, List.getLast?_append_of_ne_nil _ hne, hlast,
        List.getLast?_cons_cons]

/-- A joined text holds nothing but the separator and the texts. -/
theorem mem_intercalate {c : Char} (h : c ∈ sep.intercalate texts) :
    c ∈ sep ∨ ∃ text ∈ texts, c ∈ text := by
  induction texts with
  | nil => exact absurd h List.not_mem_nil
  | cons first rest ih =>
    cases rest with
    | nil => exact .inr ⟨first, List.mem_cons_self, by rwa [List.intercalate_singleton] at h⟩
    | cons second others =>
      rw [List.intercalate_cons_cons, List.mem_append, List.mem_append] at h
      rcases h with (hfirst | hsep) | hrest
      · exact .inr ⟨first, List.mem_cons_self, hfirst⟩
      · exact .inl hsep
      · exact (ih hrest).imp_right fun ⟨text, htext, hc⟩ => ⟨text, List.mem_cons_of_mem first htext, hc⟩

end Joined

end AuditTrail.Text
