import AuditTrail.Substitution

/-!
# Proofs/Substitution/Template — templates of escaped text

    escaped ++ %s ++ escaped ++ %s ++ … ++ escaped

Text whose percent signs are doubled scans to the characters of the text, whatever comes before and
after it (`scan_escaped`); so the conversions of a template of escaped texts are the anchors between
them, and substitution interleaves the texts with its arguments, given one for each anchor
(`substituteChars_joined`).
-/

namespace AuditTrail.Substitution

/-- The text with its percent signs doubled. -/
def escaped (text : List Char) : List Char := text.flatMap fun c => if c = '%' then ['%', '%'] else [c]

/-- **The template of some texts**: the texts, escaped, with an anchor between each two. -/
def joined : (head : List Char) → (tail : List (List Char)) → List Char
  | head, [] => escaped head
  | head, next :: tail => escaped head ++ '%' :: 's' :: joined next tail

/-- The texts with the arguments between them. -/
def interleaved (head : List Char) (tail arguments : List (List Char)) : List Char :=
  head ++ (List.zipWith (· ++ ·) arguments tail).flatten

/-- The conversion that takes a text as it is. -/
def asText (index : Nat) : Piece := .conversion ⟨false, 0, none⟩ 's' index

/-! ## Scanning -/

/-- **Escaped text scans to its characters**, and the scan goes on after it as at a start. -/
theorem scan_escaped (text rest : List Char) (index : Nat) :
    scan .text index (escaped text ++ rest)
      = text.map .plain ++ scan .text (index + (escaped text).length) rest := by
  induction text generalizing index with
  | nil => rfl
  | cons c text ih =>
    have hcons : escaped (c :: text) = (if c = '%' then ['%', '%'] else [c]) ++ escaped text :=
      List.flatMap_cons
    rw [hcons]
    by_cases hc : c = '%'
    · subst hc
      rw [if_pos rfl, List.length_append, ← Nat.add_assoc, List.map_cons, List.cons_append]
      exact congrArg (.plain '%' :: ·) (ih (index + 2))
    · have hstep : Phase.text.step index c = .give (.plain c) := if_neg hc
      rw [if_neg hc, List.length_append, ← Nat.add_assoc, List.map_cons, List.cons_append]
      change scan .text index (c :: (escaped text ++ rest)) = _
      rw [scan, hstep]
      exact congrArg (.plain c :: ·) (ih (index + 1))

/-- An anchor scans to its conversion. -/
theorem scan_anchor (rest : List Char) (index : Nat) :
    scan .text index ('%' :: 's' :: rest) = asText (index + 1) :: scan .text (index + 2) rest := rfl

/-! ## Filling -/

/-- Plain characters are put in front of what the rest gives. -/
theorem fill_plain (text : List Char) (pieces : List Piece) (arguments : List (List Char)) :
    fill (text.map .plain ++ pieces) arguments = (text ++ ·) <$> fill pieces arguments := by
  induction text with
  | nil => exact (id_map' _).symm
  | cons c text ih =>
    rw [List.map_cons, List.cons_append, fill, ih]
    exact (comp_map _ _ _).symm

/-- An argument is put in front as it is. -/
theorem fill_asText (index : Nat) (pieces : List Piece) (a : List Char) (arguments : List (List Char)) :
    fill (asText index :: pieces) (a :: arguments) = (a ++ ·) <$> fill pieces arguments := by
  have hconvert : convert ⟨false, 0, none⟩ 's' index a = .ok a := by
    simp [convert, Layout.pad, Layout.cut]
  rw [asText, fill, hconvert]
  cases fill pieces arguments with
  | error misfit => rfl
  | ok text => rfl

/-- **Filling a template of escaped texts** interleaves them with the arguments, given one for each
anchor. -/
theorem fill_joined (head : List Char) (tail arguments : List (List Char)) (index : Nat) :
    fill (scan .text index (joined head tail)) arguments
      = if arguments.length = tail.length then .ok (interleaved head tail arguments)
        else .error (if arguments.length < tail.length then .tooFewArguments else .tooManyArguments) := by
  induction tail generalizing head arguments index with
  | nil =>
    have hscan : scan .text index (joined head []) = head.map .plain ++ [] := by
      have h := scan_escaped head [] index
      rwa [List.append_nil] at h
    rw [hscan, fill_plain]
    cases arguments with
    | nil => rfl
    | cons a arguments => rfl
  | cons next tail ih =>
    rw [joined, scan_escaped, scan_anchor, fill_plain]
    cases arguments with
    | nil => rfl
    | cons a arguments =>
      rw [fill_asText, ih, List.length_cons, List.length_cons]
      simp only [Nat.add_right_cancel_iff, Nat.add_lt_add_iff_right]
      by_cases hlength : arguments.length = tail.length
      · rw [if_pos hlength, if_pos hlength]
        simp [interleaved, Functor.map, Except.map]
      · rw [if_neg hlength, if_neg hlength]
        rfl

/-- **Substituting into a template of escaped texts.** -/
theorem substituteChars_joined (head : List Char) (tail arguments : List (List Char)) :
    substituteChars (joined head tail) arguments
      = if arguments.length = tail.length then .ok (interleaved head tail arguments)
        else .error (if arguments.length < tail.length then .tooFewArguments else .tooManyArguments) :=
  fill_joined head tail arguments 0

end AuditTrail.Substitution
