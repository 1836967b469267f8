/-!
# LogFormat/Token — the fields of a log format and the text around them

    ${NAME}                  a field
    {?left${NAME}right?}     a field with text that is only written when the field has a value

A format is text with tokens.  `scan` cuts it into its first literal and, for each token, the token
and the literal after it; a token starts as early and ends as early as it can, and never spans lines.
-/

namespace AuditTrail.LogFormat

/-- **A field in a format**; `sides` is the text before and after an optional field. -/
structure Token where
  field : List Char
  sides : Option (List Char × List Char)
  deriving DecidableEq, Repr

/-- The token as it is written. -/
def Token.text (t : Token) : List Char :=
  match t.sides with
  | none => ['$', '\x7b'] ++ t.field ++ ['\x7d']
  | some (left, right) =>
    ['\x7b', '?'] ++ left ++ ['$', '\x7b'] ++ t.field ++ ['\x7d'] ++ right ++ ['?', '\x7d']

/-- **The text before the first `mark` on the line**, and the text after it. -/
def splitAtMark? (mark : List Char) : List Char → Option (List Char × List Char)
  | [] => none
  | c :: rest =>
    if mark.isPrefixOf (c :: rest) then some ([], (c :: rest).drop mark.length)
    else if c = '\n' then none
    else (splitAtMark? mark rest).map fun (before, after) => (c :: before, after)

/-- The token at the front of a text, and the text after it. -/
def takeToken? : List Char → Option (Token × List Char)
  | '$' :: '\x7b' :: rest =>
    (splitAtMark? ['\x7d'] rest).map fun (field, after) => (⟨field, none⟩, after)
  | '\x7b' :: '?' :: rest => do
    let (left, rest) ← splitAtMark? ['$', '\x7b'] rest
    let (field, rest) ← splitAtMark? ['\x7d'] rest
    let (right, after) ← splitAtMark? ['?', '\x7d'] rest
    return (⟨field, some (left, right)⟩, after)
  | _ => none

/-- What follows a mark is no longer than the text. -/
theorem length_of_splitAtMark? {mark cs before after : List Char}
    (h : splitAtMark? mark cs = some (before, after)) : after.length ≤ cs.length := by
  induction cs generalizing before with
  | nil => simp [splitAtMark?] at h
  | cons c rest ih =>
    rw [splitAtMark?] at h
    split at h
    · simp only [Option.some.injEq, Prod.mk.injEq] at h
      rw [← h.2, List.length_drop]
      omega
    · split at h
      · simp at h
      · cases hs : splitAtMark? mark rest with
        | none => simp [hs] at h
        | some found =>
          obtain ⟨b, a⟩ := found
          simp only [hs, Option.map_some, Option.some.injEq, Prod.mk.injEq] at h
          have : after.length ≤ rest.length := ih (by rw [hs, h.2])
          simp only [List.length_cons]
          omega

/-- What follows a token is shorter than the text. -/
theorem length_of_takeToken? {cs after : List Char} {t : Token}
    (h : takeToken? cs = some (t, after)) : after.length < cs.length := by
  unfold takeToken? at h
  split at h
  · rename_i rest
    cases hs : splitAtMark? ['\x7d'] rest with
    | none => simp [hs] at h
    | some found =>
      obtain ⟨field, a⟩ := found
      simp only [hs, Option.map_some, Option.some.injEq, Prod.mk.injEq] at h
      have := length_of_splitAtMark? hs
      rw [← h.2]
      simp only [List.length_cons]
      omega
  · rename_i rest
    cases h1 : splitAtMark? ['$', '\x7b'] rest with
    | none => simp [h1] at h
    | some f1 =>
      obtain ⟨left, r1⟩ := f1
      cases h2 : splitAtMark? ['\x7d'] r1 with
      | none => simp [h1, h2] at h
      | some f2 =>
        obtain ⟨field, r2⟩ := f2
        cases h3 : splitAtMark? ['?', '\x7d'] r2 with
        | none => simp [h1, h2, h3] at h
        | some f3 =>
          obtain ⟨right, r3⟩ := f3
          simp [h1, h2, h3] at h
          have l1 := length_of_splitAtMark? h1
          have l2 := length_of_splitAtMark? h2
          have l3 := length_of_splitAtMark? h3
          rw [← h.2]
          simp only [List.length_cons]
          omega
  · simp at h

/-- **A format, cut**: the first literal, and the tokens with the literal after each. -/
structure Pieces where
  head : List Char
  tail : List (Token × List Char)
  deriving DecidableEq, Repr

/-- **Cutting a format** at its tokens, from left to right. -/
def scan (cs : List Char) : Pieces :=
  match _h : takeToken? cs with
  | some (t, after) =>
    let more := scan after
    ⟨[], (t, more.head) :: more.tail⟩
  | none =>
    match cs with
    | [] => ⟨[], []⟩
    | c :: rest =>
      let more := scan rest
      ⟨c :: more.head, more.tail⟩
termination_by cs.length
decreasing_by
  · exact length_of_takeToken? _h
  · simp

/-- The format as it is written. -/
def Pieces.text (p : Pieces) : List Char :=
  p.head ++ p.tail.flatMap fun (t, literal) => t.text ++ literal

/-- The literals around the tokens, one more than there are tokens. -/
def Pieces.literals (p : Pieces) : List (List Char) := p.head :: p.tail.map (·.2)

/-- The tokens. -/
def Pieces.tokens (p : Pieces) : List Token := p.tail.map (·.1)

end AuditTrail.LogFormat
