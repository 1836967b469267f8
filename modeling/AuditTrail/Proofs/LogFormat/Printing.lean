import Mathlib.Data.List.Infix
import AuditTrail.Proofs.LogFormat.Rendering
import AuditTrail.Proofs.LogFormat.Scanning

/-!
# Proofs/LogFormat/Printing — clean pieces are compiled from what they print

    literals, tokens ──text──▸ format ──compile──▸ literals, extractors of the tokens

Pieces are clean when no literal and no part of a token has a mark that ends it early, or that starts a
token before its time (`Pieces.IsClean`).  A mark across two pieces is no mark that matters
(`nowhere_mark`), so clean pieces are leftmost lazy, and a format printed from them compiles to just them
(`compile_text`).
-/

namespace AuditTrail

open AuditTrail.LogFormat

namespace LogFormat

/-! ## Clean pieces -/

/-- **A token whose parts have none of the marks that end them**, and are on one line. -/
structure Token.IsClean (t : Token) : Prop where
  field : '\x7d' ∉ t.field ∧ '\n' ∉ t.field
  left : ∀ side ∈ t.sides, ¬ fieldMark <:+: side.1 ∧ '\n' ∉ side.1
  right : ∀ side ∈ t.sides, ¬ endMark <:+: side.2 ∧ '\n' ∉ side.2

instance (t : Token) : Decidable t.IsClean :=
  decidable_of_iff (('\x7d' ∉ t.field ∧ '\n' ∉ t.field) ∧
      (∀ side ∈ t.sides, ¬ fieldMark <:+: side.1 ∧ '\n' ∉ side.1) ∧
      ∀ side ∈ t.sides, ¬ endMark <:+: side.2 ∧ '\n' ∉ side.2)
    ⟨fun ⟨field, left, right⟩ => ⟨field, left, right⟩, fun ⟨field, left, right⟩ => ⟨field, left, right⟩⟩

/-- **Pieces without stray marks**: the tokens are clean, no literal has a mark that starts a token, and none
in front of an optional field ends in the first character of one. -/
structure Pieces.IsClean (p : Pieces) : Prop where
  tokens : ∀ t ∈ p.tokens, t.IsClean
  literals : ∀ literal ∈ p.literals, ¬ fieldMark <:+: literal ∧ ¬ optionalMark <:+: literal
  border : ∀ x ∈ p.literals.zip p.tokens, x.2.sides.isSome = true → x.1.getLast? ≠ some '$'

/-! ## Marks across pieces -/

/-- **A mark of two characters is nowhere in a text** when it is neither within it nor across its end. -/
theorem nowhere_mark {first second : Char} {text rest : List Char} (hinside : ¬ [first, second] <:+: text)
    (hacross : text.getLast? = some first → rest.head? ≠ some second) :
    Nowhere ([first, second] <+: ·) text rest := by
  induction text with
  | nil => exact nowhere_nil
  | cons c text ih =>
    refine nowhere_cons.mpr ⟨fun h => ?_, ih (fun h => hinside (h.trans (List.suffix_cons c text).isInfix))
      fun hlast => hacross (by rw [List.getLast?_cons, hlast]; rfl)⟩
    obtain ⟨rfl, hsecond⟩ := List.cons_prefix_cons.mp h
    cases text with
    | nil =>
      obtain ⟨more, rfl⟩ := hsecond
      exact hacross rfl rfl
    | cons d text =>
      obtain ⟨rfl, -⟩ := List.cons_prefix_cons.mp hsecond
      exact hinside ⟨[], text, rfl⟩

/-- A mark of one character is nowhere in a text without it. -/
theorem nowhere_char {c : Char} {text rest : List Char} (h : c ∉ text) : Nowhere ([c] <+: ·) text rest := by
  induction text with
  | nil => exact nowhere_nil
  | cons d text ih =>
    obtain ⟨hne, h⟩ := List.ne_and_not_mem_of_not_mem_cons h
    exact nowhere_cons.mpr ⟨fun hfront => hne (List.cons_prefix_cons.mp hfront).1, ih h⟩

section Clean

variable {t : Token} {p : Pieces} {literal rest : List Char} {tail : List (Token × List Char)}

/-- A clean token is on one line. -/
theorem Token.IsClean.not_mem_text (h : t.IsClean) : '\n' ∉ t.text := by
  obtain ⟨field, _ | ⟨left, right⟩⟩ := t
  · exact not_mem_text_field.mpr h.field.2
  · exact not_mem_text_optional.mpr ⟨(h.left _ rfl).2, h.field.2, (h.right _ rfl).2⟩

/-- **A clean token is lazy.** -/
theorem Token.IsClean.isLazy (h : t.IsClean) : t.IsLazy := by
  refine ⟨nowhere_char h.field.1, fun side hside => nowhere_mark (h.left side hside).1 ?_,
    fun side hside => nowhere_mark (h.right side hside).1 ?_⟩
  -- A mark behind a text does not continue one at its end: its own two characters differ.
  · exact fun _ => by decide
  · exact fun _ => by decide

/-- A token starts with one of the marks. -/
theorem OpensToken.isPrefix_or {cs : List Char} (h : OpensToken cs) :
    fieldMark <+: cs ∨ optionalMark <+: cs := by
  obtain ⟨⟨field, _ | ⟨left, right⟩⟩, ⟨after, rfl⟩, -⟩ := h
  · exact .inl ⟨_, (text_field_append field after).symm⟩
  · exact .inr ⟨_, (text_optional_append left field right after).symm⟩

theorem head?_tailText_cons (t : Token) (rest : List Char) (tail : List (Token × List Char)) :
    (tailText ((t, rest) :: tail)).head? = some (if t.sides.isSome then '\x7b' else '$') := by
  rw [tailText_cons]
  obtain ⟨field, _ | ⟨left, right⟩⟩ := t
  · rw [text_field_append]
    rfl
  · rw [text_optional_append]
    rfl

/-- No token can start within a clean literal. -/
theorem nowhere_opensToken (hliteral : ¬ fieldMark <:+: literal ∧ ¬ optionalMark <:+: literal)
    (hborder : ∀ x ∈ tail.head?, x.1.sides.isSome = true → literal.getLast? ≠ some '$') :
    Nowhere OpensToken literal (tailText tail) := by
  have hfield : Nowhere (fieldMark <+: ·) literal (tailText tail) := by
    refine nowhere_mark hliteral.1 fun hlast => ?_
    rcases tail with _ | ⟨⟨t, rest⟩, tail⟩
    · exact nofun
    · rw [head?_tailText_cons]
      cases hsides : t.sides.isSome with
      | false => decide
      | true => exact absurd hlast (hborder (t, rest) rfl hsides)
  have hoptional : Nowhere (optionalMark <+: ·) literal (tailText tail) := by
    refine nowhere_mark hliteral.2 fun _ => ?_
    rcases tail with _ | ⟨⟨t, rest⟩, tail⟩
    · exact nofun
    · rw [head?_tailText_cons]
      cases t.sides.isSome <;> decide
  intro k hk hopens
  exact hopens.isPrefix_or.elim (hfield k hk) (hoptional k hk)

/-- **Clean pieces are leftmost lazy.** -/
theorem Pieces.IsClean.isLeftmostLazy (h : p.IsClean) : p.IsLeftmostLazy := by
  obtain ⟨literal, tail⟩ := p
  induction tail generalizing literal with
  | nil =>
    have hnowhere : Nowhere OpensToken literal (tailText []) :=
      nowhere_opensToken (h.literals _ List.mem_cons_self) nofun
    exact Pieces.isLeftmostLazy_nil.mpr hnowhere
  | cons part tail ih =>
    obtain ⟨t, rest⟩ := part
    obtain ⟨htokens, hliterals, hborder⟩ := h
    obtain ⟨ht, htokens⟩ := List.forall_mem_cons.mp htokens
    obtain ⟨hliteral, hliterals⟩ := List.forall_mem_cons.mp hliterals
    obtain ⟨hfirst, hborder⟩ := List.forall_mem_cons.mp hborder
    refine Pieces.isLeftmostLazy_cons.mpr ⟨nowhere_opensToken hliteral ?_, ⟨ht.not_mem_text, ht.isLazy⟩,
      ih rest ⟨htokens, hliterals, hborder⟩⟩
    rintro _ ⟨⟩
    exact hfirst

/-- **The scan of what clean pieces print** gives the pieces. -/
theorem Pieces.IsClean.scan_text (h : p.IsClean) : scan p.text = p :=
  LogFormat.scan_text h.isLeftmostLazy

end Clean

end LogFormat

/-! ## Compiled formats -/

namespace Compiler

variable {c : Compiler} {p : Pieces}

/-- **A format printed from clean pieces compiles to them.**  When every field is known, a compiler that can
be used at all compiles the format, to just these literals and, in their order, extractors with just these
tokens and the functions of their fields; and a compiler that cannot be used compiles no format. -/
theorem compile_text (hclean : p.IsClean)
    (hfields : ∀ t ∈ p.tokens, (c.fields.resolve? c.fallback (String.ofList t.field)).isSome = true) :
    (c.IsUsable → ∃ t, c.compile (String.ofList p.text) = .ok t ∧
      t.literals = p.literals.map String.ofList ∧
      t.extractors.map (·.token) = p.tokens ∧
      ∀ x ∈ t.extractors, c.fields.resolve? c.fallback x.field = some x.function) ∧
    (¬ c.IsUsable → ∀ format t, c.compile format ≠ .ok t) := by
  have hscan : scan (String.ofList p.text).toList = p := by rw [String.toList_ofList, hclean.scan_text]
  constructor
  · intro husable
    obtain ⟨t, ht⟩ := exists_compile_eq_ok_iff.mpr ⟨husable, hscan.symm ▸ hfields⟩
    obtain ⟨-, -, -, -, -, hliterals, -⟩ := compile_eq_ok ht
    refine ⟨t, ht, ?_, ?_, resolve?_of_compile_eq_ok ht⟩
    · rw [hliterals, hscan]
    · rw [tokens_of_compile_eq_ok ht, hscan]
  · intro hnot format t ht
    exact hnot (exists_compile_eq_ok_iff.mp ⟨t, ht⟩).1

end Compiler

/-- A dollar in front of a field and on the left of another, which has a question mark on its right. -/
def borderPieces : Pieces :=
  ⟨['$'], [(⟨"USER".toList, none⟩, ['\n']), (⟨"USER".toList, some (['$'], ['?'])⟩, [])]⟩

/-- The compiler that knows the user and leaves the text around the fields as it is. -/
def userCompiler : Compiler := ⟨userFields, percentAnchor, none, none⟩

/-- Characters of marks at the borders of the pieces do no harm. -/
theorem compile_border :
    (borderPieces.IsClean ∧ (∀ t ∈ borderPieces.tokens,
      (userCompiler.fields.resolve? userCompiler.fallback (String.ofList t.field)).isSome = true) ∧
      userCompiler.IsUsable) ∧
    ∃ t, userCompiler.compile (String.ofList borderPieces.text) = .ok t ∧
      t.literals = ["$", "\n", ""] ∧ t.extractors.map (·.token) = borderPieces.tokens := by
  have hclean : borderPieces.IsClean := ⟨by decide, by decide, by decide⟩
  have hfields : ∀ t ∈ borderPieces.tokens,
      (userCompiler.fields.resolve? userCompiler.fallback (String.ofList t.field)).isSome = true := by
    decide +kernel
  have husable : userCompiler.IsUsable := Compiler.isUsable_of_escape_eq_none rfl rfl
  obtain ⟨t, ht, hliterals, htokens, -⟩ := (Compiler.compile_text hclean hfields).1 husable
  exact ⟨⟨hclean, hfields, husable⟩, t, ht, hliterals, htokens⟩

end AuditTrail
