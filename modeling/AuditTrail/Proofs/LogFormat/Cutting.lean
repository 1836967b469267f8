import AuditTrail.Proofs.LogFormat.FieldPattern
import AuditTrail.Proofs.LogFormat.Rendering

/-!
# Proofs/LogFormat/Cutting — formats compiled at their leftmost lazy tokens

    {?by ${USER}?} ${   ──compile──▸   "" │ {?by ${USER}?} │ " ${"

What a format is compiled to gives the format back, piece by piece, and its tokens are the leftmost lazy
ones, which are the matches of the pattern of the tokens (`compile_leftmost_lazy`).
-/

namespace AuditTrail

open AuditTrail.LogFormat

/-! ## Literals -/

/-- No token can start within any literal. -/
theorem LogFormat.Pieces.IsLeftmostLazy.nowhere_of_mem {p : Pieces} (h : p.IsLeftmostLazy) :
    ∀ literal ∈ p.literals, ∃ rest, Nowhere OpensToken literal rest := by
  refine List.forall_mem_cons.mpr ⟨⟨_, h.head⟩, fun literal hliteral => ?_⟩
  obtain ⟨⟨t, _⟩, hpart, rfl⟩ := List.mem_map.mp hliteral
  obtain ⟨before, after, hsplit⟩ := List.append_of_mem hpart
  exact ⟨_, h.following before t _ after hsplit⟩

/-- Where no token can start no field is written. -/
theorem LogFormat.not_isInfix_of_nowhere {field literal rest : List Char}
    (h : Nowhere OpensToken literal rest) (hline : '\n' ∉ field) :
    ¬ fieldMark ++ field ++ closingMark <:+: literal := by
  rintro ⟨before, after, rfl⟩
  have hlength : before.length < (before ++ (fieldMark ++ field ++ closingMark) ++ after).length := by
    simp only [List.length_append, List.length_cons]
    omega
  refine h before.length hlength ⟨⟨field, none⟩, ⟨after ++ rest, ?_⟩, not_mem_text_field.mpr hline⟩
  simp only [List.append_assoc, List.drop_left, text_field_append]

/-! ## Compiled formats -/

namespace Compiler

variable {c : Compiler} {format : String} {t : Template}

/-- **A compiled format is cut at its leftmost lazy tokens.**  There is one more literal than extractors; the
literals and the tokens of the extractors, written in turn, give the format; each token starts where one
first can, is on one line and ends each of its parts at the first mark.  These are the matches of the
pattern of the tokens, no other pieces of the format are cut so, and no literal has a field on a line. -/
theorem compile_leftmost_lazy (h : c.compile format = .ok t) :
    t.literals.length = t.extractors.length + 1 ∧
    t.pieces.text = format.toList ∧
    t.pieces.IsLeftmostLazy ∧
    t.pieces = cut fieldPattern format.toList ∧
    (∀ p : Pieces, p.text = format.toList → p.IsLeftmostLazy → p = t.pieces) ∧
    ∀ literal ∈ t.literals, ∀ field, '\n' ∉ field →
      ¬ fieldMark ++ field ++ closingMark <:+: literal.toList := by
  have hscan := pieces_of_compile_eq_ok h
  obtain ⟨htext, hlazy⟩ := scan_eq_iff.mp hscan.symm
  refine ⟨?_, htext, hlazy, hscan.trans (cut_fieldPattern _).symm, ?_, ?_⟩
  · rw [Template.literals, Template.extractors, List.length_cons, List.length_map, List.length_map]
  · intro p hp hplazy
    rw [hscan, scan_eq_iff.mpr ⟨hp, hplazy⟩]
  · intro literal hliteral field hline
    have hmem : literal.toList ∈ t.pieces.literals := by
      rw [Template.literals_pieces]
      exact List.mem_map_of_mem hliteral
    obtain ⟨rest, hnowhere⟩ := hlazy.nowhere_of_mem _ hmem
    exact not_isInfix_of_nowhere hnowhere hline

end Compiler

/-- An optional user, and a field that is not closed. -/
def openTemplate : Template :=
  ⟨"\x7b?by $\x7bUSER\x7d?\x7d $\x7b", "%s $\x7b", "%s", "",
    [(⟨⟨"USER".toList, some ("by ".toList, [])⟩, fun e => .ok (.text e.principal)⟩, " $\x7b")]⟩

theorem compile_open : (Compiler.percent userFields none).compile "\x7b?by $\x7bUSER\x7d?\x7d $\x7b"
    = .ok openTemplate := by
  have hscan : scan "\x7b?by $\x7bUSER\x7d?\x7d $\x7b".toList
      = ⟨[], [(⟨"USER".toList, some ("by ".toList, [])⟩, " $\x7b".toList)]⟩ := by decide +kernel
  rw [Compiler.compile, hscan]
  rfl

/-- A mark that is not closed stays in the literal behind the optional field. -/
theorem compile_open_leftmost_lazy :
    (Compiler.percent userFields none).compile "\x7b?by $\x7bUSER\x7d?\x7d $\x7b" = .ok openTemplate ∧
    openTemplate.pieces.IsLeftmostLazy ∧
    openTemplate.pieces = cut fieldPattern "\x7b?by $\x7bUSER\x7d?\x7d $\x7b".toList := by
  obtain ⟨-, -, hlazy, hcut, -⟩ := Compiler.compile_leftmost_lazy compile_open
  exact ⟨compile_open, hlazy, hcut⟩

end AuditTrail
