import AuditTrail.LogFormat.Template
import AuditTrail.Proofs.Outcome

/-!
# Proofs/LogFormat/Compile — what a compiled format consists of

A format that compiles has the literals of its scan around the extractors of its tokens
(`compile_eq_ok`, `pieces_of_compile_eq_ok`), and every extractor has the function that the registry or the
fallback gives for its field (`resolve?_of_compile_eq_ok`).  A format compiles when the compiler is usable
and every field is known (`exists_compile_eq_ok_iff`).
-/

namespace AuditTrail

open AuditTrail.LogFormat AuditTrail.Pattern

/-- Without a fallback the function of a name is that of the registry. -/
theorem Registry.mem_of_resolve? {registry : Registry} {name : String} {function : FieldFunction}
    (h : registry.resolve? none name = some function) : (name, some function) ∈ registry := by
  rw [resolve?] at h
  split at h
  · rename_i hlookup
    obtain rfl := Option.some.inj h
    obtain ⟨front, back, rfl, -⟩ := List.lookup_eq_some_iff.mp hlookup
    exact List.mem_append_right front List.mem_cons_self
  · cases h

/-- The first literals and the tokens make out the pieces. -/
theorem LogFormat.Pieces.ext_of {p q : Pieces} (hliterals : p.literals = q.literals)
    (htokens : p.tokens = q.tokens) : p = q := by
  obtain ⟨head, tail⟩ := p
  obtain ⟨rfl, hfollowing⟩ := List.cons.inj hliterals
  exact congrArg (Pieces.mk _) ((List.zip_of_prod htokens hfollowing).trans (List.zip_of_prod rfl rfl).symm)

namespace Template

/-- **The pieces of a compiled format**: its literals and the tokens of its extractors. -/
def pieces (t : Template) : Pieces :=
  ⟨t.head.toList, t.parts.map fun (x, literal) => (x.token, literal.toList)⟩

theorem literals_pieces (t : Template) : t.pieces.literals = t.literals.map String.toList := by
  rw [Pieces.literals, pieces, literals, List.map_cons, List.map_map, List.map_map]
  rfl

theorem tokens_pieces (t : Template) : t.pieces.tokens = t.extractors.map (·.token) := by
  rw [Pieces.tokens, pieces, extractors, List.map_map, List.map_map]
  rfl

end Template

namespace Compiler

variable {c : Compiler} {format : String} {t : Template}

/-- **A compiled format**: the literals as they are scanned, an extractor for each token, and a template
of the escaped literals with the anchor between them. -/
theorem compile_eq_ok (h : c.compile format = .ok t) :
    ∃ pattern escape, c.escapePattern = .ok pattern ∧ escaping pattern = .ok escape ∧
      (scan format.toList).tokens.mapM c.extractor = .ok t.extractors ∧
      t.literals = (scan format.toList).literals.map String.ofList ∧
      t.template
        = c.anchor.intercalate ((scan format.toList).literals.map fun l => String.ofList (escape l)) := by
  rw [compile] at h
  split at h
  · cases h
  obtain ⟨pattern, hpattern, h⟩ := bind_eq_ok_iff.mp h
  obtain ⟨extractors, hextractors, h⟩ := bind_eq_ok_iff.mp h
  obtain ⟨escape, hescape, h⟩ := bind_eq_ok_iff.mp h
  obtain rfl := Except.ok.inj h
  have hlength : extractors.length = (scan format.toList).tail.length := by
    rw [length_of_mapM_eq_ok hextractors, Pieces.tokens, List.length_map]
  refine ⟨pattern, escape, hpattern, hescape, ?_, ?_, rfl⟩
  · rw [Template.extractors, List.map_fst_zip (Nat.le_of_eq (hlength.trans (List.length_map _).symm))]
    exact hextractors
  · rw [Template.literals, List.map_snd_zip (Nat.le_of_eq ((List.length_map _).trans hlength.symm)),
      Pieces.literals, List.map_cons (f := String.ofList), List.map_map]
    rfl

/-- The anchor of a template is that of its compiler. -/
theorem anchor_of_compile_eq_ok (h : c.compile format = .ok t) : t.anchor = c.anchor := by
  rw [compile] at h
  split at h
  · cases h
  obtain ⟨pattern, -, h⟩ := bind_eq_ok_iff.mp h
  obtain ⟨extractors, -, h⟩ := bind_eq_ok_iff.mp h
  obtain ⟨escape, -, h⟩ := bind_eq_ok_iff.mp h
  obtain rfl := Except.ok.inj h
  rfl

/-- An extractor keeps the token it was made for. -/
theorem extractor_eq_ok {token : Token} {x : Extractor} (h : c.extractor token = .ok x) :
    x.token = token ∧ c.fields.resolve? c.fallback x.field = some x.function := by
  rw [extractor] at h
  split at h
  · rename_i hfunction
    obtain rfl := Except.ok.inj h
    exact ⟨rfl, hfunction⟩
  · cases h

/-- **The functions of a compiled format** are those of the registry, or of the fallback. -/
theorem resolve?_of_compile_eq_ok (h : c.compile format = .ok t) :
    ∀ x ∈ t.extractors, c.fields.resolve? c.fallback x.field = some x.function := by
  obtain ⟨-, -, -, -, hextractors, -, -⟩ := compile_eq_ok h
  intro x hx
  obtain ⟨token, -, htoken⟩ := exists_of_mem_of_mapM_eq_ok hextractors x hx
  exact (extractor_eq_ok htoken).2

/-- The extractors have the tokens of the scan. -/
theorem tokens_of_compile_eq_ok (h : c.compile format = .ok t) :
    t.extractors.map (·.token) = (scan format.toList).tokens := by
  obtain ⟨-, -, -, -, hextractors, -, -⟩ := compile_eq_ok h
  exact map_eq_of_mapM_eq_ok (fun _ _ hx => (extractor_eq_ok hx).1) hextractors

/-- **The pieces of a compiled format** are those of its scan. -/
theorem pieces_of_compile_eq_ok (h : c.compile format = .ok t) : t.pieces = scan format.toList := by
  obtain ⟨-, -, -, -, -, hliterals, -⟩ := compile_eq_ok h
  have hid : String.toList ∘ String.ofList = id := funext fun _ => String.toList_ofList
  have hchars : t.literals.map String.toList = (scan format.toList).literals := by
    rw [hliterals, List.map_map, hid, List.map_id]
  exact Pieces.ext_of ((Template.literals_pieces t).trans hchars)
    ((Template.tokens_pieces t).trans (tokens_of_compile_eq_ok h))

/-- **The compiler can be used**: it has an anchor, and its escape is a pattern with a replacement that
fits. -/
structure IsUsable (c : Compiler) : Prop where
  anchor : c.anchor.isEmpty = false
  escape : ∃ pattern escape, c.escapePattern = .ok pattern ∧ escaping pattern = .ok escape

/-- Without an escape only the anchor matters. -/
theorem isUsable_of_escape_eq_none (hanchor : c.anchor.isEmpty = false) (hescape : c.escape = none) :
    c.IsUsable := by
  refine ⟨hanchor, none, id, ?_, rfl⟩
  rw [escapePattern, hescape]

/-- **What compiles**: just the formats whose fields are known, if the compiler can be used. -/
theorem exists_compile_eq_ok_iff : (∃ t, c.compile format = .ok t) ↔ c.IsUsable ∧
    ∀ token ∈ (scan format.toList).tokens,
      (c.fields.resolve? c.fallback (String.ofList token.field)).isSome = true := by
  constructor
  · rintro ⟨t, h⟩
    obtain ⟨pattern, escape, hpattern, hescape, -⟩ := compile_eq_ok h
    refine ⟨⟨?_, pattern, escape, hpattern, hescape⟩, ?_⟩
    · cases hanchor : c.anchor.isEmpty with
      | false => rfl
      | true =>
        rw [compile, if_pos hanchor] at h
        cases h
    · rw [← tokens_of_compile_eq_ok h, List.forall_mem_map]
      intro x hx
      exact Option.isSome_iff_exists.mpr ⟨_, resolve?_of_compile_eq_ok h x hx⟩
  · rintro ⟨⟨hanchor, pattern, escape, hpattern, hescape⟩, hfields⟩
    have hextractor : ∀ token ∈ (scan format.toList).tokens, ∃ x, c.extractor token = .ok x := by
      intro token htoken
      obtain ⟨function, hfunction⟩ := Option.isSome_iff_exists.mp (hfields token htoken)
      exact ⟨⟨token, function⟩, by rw [extractor, hfunction]⟩
    obtain ⟨extractors, hextractors⟩ := exists_mapM_eq_ok hextractor
    unfold compile
    rw [if_neg (Bool.eq_false_iff.mp hanchor)]
    exact ⟨_, bind_eq_ok_iff.mpr ⟨pattern, hpattern, bind_eq_ok_iff.mpr
      ⟨extractors, hextractors, bind_eq_ok_iff.mpr ⟨escape, hescape, rfl⟩⟩⟩⟩

end Compiler

end AuditTrail
