import AuditTrail.Proofs.Outcome
import AuditTrail.Time.Format
import Mathlib.Data.List.Basic

/-!
# Proofs/Time/Directives — which texts are time formats

    %H │ : │ %M │   │ %%      plain characters and directives
    %H │ : │ %Q               the first directive that there is not

A time format is plain characters and directives in a row (`IsTimeFormat`), and these are the texts that are
read (`exists_read_iff`).  Of any other text the first directive is told that there is not
(`read_eq_error_iff`).  What a `%` means depends on how many stand before it: they pair off from the left
(`isTimeFormat_percents_append_iff`).
-/

namespace AuditTrail.Time

variable {c : Char} {cs before rest : List Char} {letter : Option Char}

/-- The letters of the directives, of which the percent sign is one. -/
def directiveLetters : List Char := "aAwdbBmyYHIpMSfzZjUWcxXGuV%".toList

theorem Directive.exists_ofChar?_iff : (∃ d, Directive.ofChar? c = some d) ↔ c ∈ directiveLetters := by
  constructor
  · rintro ⟨d, hd⟩
    unfold ofChar? at hd
    split at hd
    case h_28 => cases hd
    all_goals decide
  · have hletters : (directiveLetters.all fun c => (ofChar? c).isSome) = true := by decide
    exact fun hc => Option.isSome_iff_exists.mp (List.all_eq_true.mp hletters c hc)

theorem Directive.ofChar?_eq_none_iff : Directive.ofChar? c = none ↔ c ∉ directiveLetters := by
  rw [← exists_ofChar?_iff, ← Option.isSome_iff_exists, Option.not_isSome_iff_eq_none]

/-! ## Plain characters and directives in a row -/

/-- **One piece of a time format**: a character that is no percent sign, or a percent sign with the letter of a
directive. -/
inductive IsPiece : List Char → Prop
  | plain {c : Char} (hc : c ≠ '%') : IsPiece [c]
  | directive {c : Char} (hc : c ∈ directiveLetters) : IsPiece ['%', c]

/-- **The text of a time format** is pieces in a row. -/
def IsTimeFormat (cs : List Char) : Prop :=
  ∃ pieces : List (List Char), (∀ piece ∈ pieces, IsPiece piece) ∧ pieces.flatten = cs

namespace IsTimeFormat

theorem nil : IsTimeFormat [] := ⟨[], nofun, rfl⟩

theorem cons {piece : List Char} (hpiece : IsPiece piece) (h : IsTimeFormat rest) :
    IsTimeFormat (piece ++ rest) := by
  obtain ⟨pieces, hpieces, rfl⟩ := h
  exact ⟨piece :: pieces, List.forall_mem_cons.mpr ⟨hpiece, hpieces⟩, rfl⟩

theorem plain (hc : c ≠ '%') (h : IsTimeFormat rest) : IsTimeFormat (c :: rest) := cons (.plain hc) h

theorem directive (hc : c ∈ directiveLetters) (h : IsTimeFormat rest) : IsTimeFormat ('%' :: c :: rest) :=
  cons (.directive hc) h

end IsTimeFormat

/-- **The first directive that there is not**, by its letter: before it all is in pieces, and the percent sign
is the last character, or the letter behind it is that of no directive. -/
inductive FirstUnknown : List Char → Option Char → Prop
  | cut {before : List Char} (hbefore : IsTimeFormat before) : FirstUnknown (before ++ ['%']) none
  | letter {before : List Char} {c : Char} (hbefore : IsTimeFormat before) (hc : c ∉ directiveLetters)
    (after : List Char) : FirstUnknown (before ++ '%' :: c :: after) (some c)

/-- A piece more in front makes no difference. -/
theorem FirstUnknown.cons {piece : List Char} (hpiece : IsPiece piece) (h : FirstUnknown rest letter) :
    FirstUnknown (piece ++ rest) letter := by
  cases h with
  | cut hbefore => exact List.append_assoc .. ▸ .cut (hbefore.cons hpiece)
  | letter hbefore hc after => exact List.append_assoc .. ▸ .letter (hbefore.cons hpiece) hc after

/-! ## Reading -/

/-- What is neither the last percent sign nor one in front of a character is none. -/
theorem ne_percent (hend : c = '%' → rest ≠ []) (hfront : ∀ d after, c = '%' → rest ≠ d :: after) : c ≠ '%' := by
  intro hc
  cases rest with
  | nil => exact hend hc rfl
  | cons d after => exact hfront d after hc rfl

theorem read_plain (hc : c ≠ '%') (rest : List Char) :
    TimeFormat.read (c :: rest) = (TimeFormat.read rest).map (.plain c :: ·) := by
  rw [TimeFormat.read]
  · rintro rfl
    exact absurd rfl hc
  · rintro _ _ rfl
    exact absurd rfl hc

theorem read_directive {d : Directive} (hd : Directive.ofChar? c = some d) (rest : List Char) :
    TimeFormat.read ('%' :: c :: rest) = (TimeFormat.read rest).map (.directive d :: ·) := by
  rw [TimeFormat.read, hd]

theorem read_unknown (hd : Directive.ofChar? c = none) (rest : List Char) :
    TimeFormat.read ('%' :: c :: rest) = .error (some c) := by
  rw [TimeFormat.read, hd]

/-- **A time format is read**, and then what is behind it, whatever that is. -/
theorem IsTimeFormat.exists_read_append (h : IsTimeFormat before) :
    ∃ format : TimeFormat, ∀ rest, TimeFormat.read (before ++ rest) = (TimeFormat.read rest).map (format ++ ·) := by
  obtain ⟨pieces, hpieces, rfl⟩ := h
  induction pieces with
  | nil =>
    refine ⟨[], fun rest => ?_⟩
    rw [List.flatten_nil, List.nil_append]
    cases TimeFormat.read rest <;> rfl
  | cons piece pieces ih =>
    obtain ⟨hpiece, hpieces⟩ := List.forall_mem_cons.mp hpieces
    obtain ⟨format, hread⟩ := ih hpieces
    cases hpiece with
    | @plain c hc =>
      refine ⟨.plain c :: format, fun rest => ?_⟩
      rw [List.flatten_cons, List.append_assoc, List.singleton_append, read_plain hc, hread]
      cases TimeFormat.read rest <;> rfl
    | @directive c hc =>
      obtain ⟨d, hd⟩ := Directive.exists_ofChar?_iff.mpr hc
      refine ⟨.directive d :: format, fun rest => ?_⟩
      rw [List.flatten_cons, List.append_assoc, List.cons_append, List.singleton_append, read_directive hd, hread]
      cases TimeFormat.read rest <;> rfl

/-- **A text is a time format and read, or a first directive is told** that there is not. -/
theorem read_cases (cs : List Char) :
    (∃ format, TimeFormat.read cs = .ok format) ∧ IsTimeFormat cs ∨
      ∃ letter, TimeFormat.read cs = .error letter ∧ FirstUnknown cs letter := by
  fun_induction TimeFormat.read cs with
  | case1 => exact .inl ⟨⟨_, rfl⟩, .nil⟩
  | case2 => exact .inr ⟨none, rfl, .cut .nil⟩
  | case3 c rest d hd ih =>
    have hc : c ∈ directiveLetters := Directive.exists_ofChar?_iff.mp ⟨d, hd⟩
    rcases ih with ⟨⟨format, hread⟩, h⟩ | ⟨letter, hread, h⟩
    · exact .inl ⟨⟨_, map_eq_ok_iff.mpr ⟨format, hread, rfl⟩⟩, h.directive hc⟩
    · exact .inr ⟨letter, map_eq_error_iff.mpr hread, h.cons (.directive hc)⟩
  | case4 c rest hd =>
    exact .inr ⟨some c, rfl, .letter .nil (Directive.ofChar?_eq_none_iff.mp hd) rest⟩
  | case5 c rest hend hfront ih =>
    have hc : c ≠ '%' := ne_percent hend hfront
    rcases ih with ⟨⟨format, hread⟩, h⟩ | ⟨letter, hread, h⟩
    · exact .inl ⟨⟨_, map_eq_ok_iff.mpr ⟨format, hread, rfl⟩⟩, h.plain hc⟩
    · exact .inr ⟨letter, map_eq_error_iff.mpr hread, h.cons (.plain hc)⟩

/-- **The texts that are read are the time formats.** -/
theorem exists_read_iff : (∃ format, TimeFormat.read cs = .ok format) ↔ IsTimeFormat cs := by
  constructor
  · rintro ⟨format, hread⟩
    rcases read_cases cs with ⟨-, h⟩ | ⟨letter, herror, -⟩
    · exact h
    · cases hread.symm.trans herror
  · intro h
    obtain ⟨format, hread⟩ := h.exists_read_append
    refine ⟨format, ?_⟩
    have hall := hread []
    rwa [List.append_nil, TimeFormat.read, Except.map, List.append_nil] at hall

instance (cs : List Char) : Decidable (IsTimeFormat cs) :=
  match h : TimeFormat.read cs with
  | .ok format => isTrue (exists_read_iff.mp ⟨format, h⟩)
  | .error _ => isFalse fun hcs => nomatch h.symm.trans (exists_read_iff.mpr hcs).choose_spec

/-- **The directive that is told is the first one** that there is not. -/
theorem read_eq_error_iff : TimeFormat.read cs = .error letter ↔ FirstUnknown cs letter := by
  constructor
  · intro hread
    rcases read_cases cs with ⟨⟨format, hok⟩, -⟩ | ⟨other, herror, h⟩
    · cases hread.symm.trans hok
    · obtain rfl := Except.error.inj (hread.symm.trans herror)
      exact h
  · rintro (hbefore | ⟨hbefore, hc, after⟩)
    · obtain ⟨format, hread⟩ := hbefore.exists_read_append
      rw [hread]
      rfl
    · obtain ⟨format, hread⟩ := hbefore.exists_read_append
      rw [hread, read_unknown (Directive.ofChar?_eq_none_iff.mpr hc)]
      rfl

/-! ## Percent signs in a row -/

theorem isTimeFormat_percent_iff :
    IsTimeFormat ('%' :: c :: rest) ↔ c ∈ directiveLetters ∧ IsTimeFormat rest := by
  rw [← exists_read_iff, ← exists_read_iff, ← Directive.exists_ofChar?_iff]
  cases hc : Directive.ofChar? c with
  | none =>
    rw [read_unknown hc]
    exact iff_of_false nofun fun h => nomatch h.1
  | some d =>
    rw [and_iff_right ⟨d, rfl⟩, read_directive hc]
    simp only [map_eq_ok_iff]
    exact ⟨fun ⟨_, format, h, _⟩ => ⟨format, h⟩, fun ⟨format, h⟩ => ⟨_, format, h, rfl⟩⟩

/-- **Percent signs pair off from the left.**  Behind an even number of them a text goes on as if they were not
there; behind an odd number its first character is the letter of a directive. -/
theorem isTimeFormat_percents_append_iff (n : Nat) (rest : List Char) :
    (IsTimeFormat (List.replicate (2 * n) '%' ++ rest) ↔ IsTimeFormat rest) ∧
    (IsTimeFormat (List.replicate (2 * n + 1) '%' ++ rest) ↔
      ∃ c after, rest = c :: after ∧ c ∈ directiveLetters ∧ IsTimeFormat after) := by
  induction n with
  | zero =>
    refine ⟨Iff.rfl, ?_⟩
    cases rest with
    | nil => exact iff_of_false (by decide) nofun
    | cons c rest =>
      refine isTimeFormat_percent_iff.trans ⟨fun h => ⟨c, rest, rfl, h⟩, ?_⟩
      rintro ⟨_, _, hrest, h⟩
      obtain ⟨rfl, rfl⟩ := List.cons.inj hrest
      exact h
  | succ n ih =>
    have hpair (cs : List Char) : IsTimeFormat ('%' :: '%' :: cs) ↔ IsTimeFormat cs :=
      isTimeFormat_percent_iff.trans (and_iff_right (by decide))
    exact ⟨(hpair _).trans ih.1, (hpair _).trans ih.2⟩

end AuditTrail.Time
