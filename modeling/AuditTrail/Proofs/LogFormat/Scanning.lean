import AuditTrail.LogFormat.Token

/-!
# Proofs/LogFormat/Scanning — formats cut at their leftmost lazy tokens

    literal │ ${field} │ literal │ {?left${field}right?} │ literal
            └ as early as a token can start, as short as it can end ┘

`scan` cuts a format so that the pieces give it back, every token ends at the first marks that close it,
and no token could start earlier (`Pieces.IsLeftmostLazy`).  There is only one such cut, so these
properties make out the scan (`scan_eq_iff`).
-/

namespace AuditTrail.LogFormat

/-! ## First occurrences -/

/-- **`P` holds at no place within a text** that has `rest` behind it. -/
def Nowhere (P : List Char → Prop) (text rest : List Char) : Prop :=
  ∀ k < text.length, ¬ P ((text ++ rest).drop k)

instance (P : List Char → Prop) [DecidablePred P] (text rest : List Char) :
    Decidable (Nowhere P text rest) :=
  inferInstanceAs (Decidable (∀ k < text.length, ¬ P ((text ++ rest).drop k)))

section Nowhere

variable {P : List Char → Prop} {c : Char} {text rest : List Char}

theorem nowhere_nil : Nowhere P [] rest := fun _ hk => absurd hk (Nat.not_lt_zero _)

theorem nowhere_cons :
    Nowhere P (c :: text) rest ↔ ¬ P (c :: (text ++ rest)) ∧ Nowhere P text rest := by
  constructor
  · intro h
    exact ⟨h 0 (Nat.zero_lt_succ _), fun k hk => h (k + 1) (Nat.succ_lt_succ hk)⟩
  · rintro ⟨hfirst, hmore⟩ (_ | k) hk
    · exact hfirst
    · exact hmore k (Nat.lt_of_succ_lt_succ hk)

end Nowhere

/-- The mark behind a text is the first one from the text on. -/
abbrev EndsAtFirst (mark text : List Char) : Prop := Nowhere (mark <+: ·) text mark

section SplitAtMark

variable {mark cs before after : List Char}

/-- What stands behind the mark does not matter to whether it is the first one. -/
theorem isPrefix_append_append_iff (before : List Char) :
    mark <+: before ++ mark ++ after ↔ mark <+: before ++ mark := by
  constructor
  · intro h
    refine List.prefix_of_prefix_length_le h (List.prefix_append _ _) ?_
    rw [List.length_append]
    exact Nat.le_add_left _ _
  · intro h
    exact h.trans (List.prefix_append _ _)

theorem splitAtMark?_of_isPrefix {c : Char} {rest : List Char} (h : mark <+: c :: rest) :
    splitAtMark? mark (c :: rest) = some ([], (c :: rest).drop mark.length) := by
  rw [splitAtMark?, if_pos (List.isPrefixOf_iff_prefix.mpr h)]

theorem splitAtMark?_cons {c : Char} {rest : List Char} (h : ¬ mark <+: c :: rest) (hc : c ≠ '\n') :
    splitAtMark? mark (c :: rest)
      = (splitAtMark? mark rest).map fun (before, after) => (c :: before, after) := by
  rw [splitAtMark?, if_neg (mt List.isPrefixOf_iff_prefix.mp h), if_neg hc]

/-- The line ends without a mark. -/
theorem splitAtMark?_newline {rest : List Char} (h : ¬ mark <+: '\n' :: rest) :
    splitAtMark? mark ('\n' :: rest) = none := by
  rw [splitAtMark?, if_neg (mt List.isPrefixOf_iff_prefix.mp h), if_pos rfl]

theorem splitAtMark?_append (hmark : mark ≠ []) (hline : '\n' ∉ before)
    (hfirst : EndsAtFirst mark before) :
    splitAtMark? mark (before ++ mark ++ after) = some (before, after) := by
  induction before with
  | nil =>
    obtain ⟨c, rest, rfl⟩ := List.exists_cons_of_ne_nil hmark
    rw [List.nil_append, List.cons_append, splitAtMark?_of_isPrefix ⟨after, rfl⟩, ← List.cons_append,
      List.drop_left]
  | cons c before ih =>
    obtain ⟨hc, hline⟩ := List.ne_and_not_mem_of_not_mem_cons hline
    obtain ⟨hnot, hfirst⟩ := nowhere_cons.mp hfirst
    have hnot' : ¬ mark <+: c :: (before ++ mark ++ after) :=
      mt (isPrefix_append_append_iff (c :: before)).mp hnot
    rw [List.cons_append, List.cons_append, splitAtMark?_cons hnot' hc.symm, ih hline hfirst]
    rfl

/-- **Splitting a text at a mark** gives what is before the first one on the line, and what is behind. -/
theorem splitAtMark?_eq_some_iff (hmark : mark ≠ []) :
    splitAtMark? mark cs = some (before, after) ↔
      cs = before ++ mark ++ after ∧ '\n' ∉ before ∧ EndsAtFirst mark before := by
  constructor
  · intro h
    induction cs generalizing before with
    | nil => cases h
    | cons c rest ih =>
      by_cases hfront : mark <+: c :: rest
      · rw [splitAtMark?_of_isPrefix hfront] at h
        obtain ⟨rfl, rfl⟩ := Prod.mk.inj (Option.some.inj h)
        exact ⟨List.prefix_iff_eq_append.mp hfront |>.symm, List.not_mem_nil, nowhere_nil⟩
      by_cases hc : c = '\n'
      · subst hc
        rw [splitAtMark?_newline hfront] at h
        cases h
      rw [splitAtMark?_cons hfront hc, Option.map_eq_some_iff] at h
      obtain ⟨⟨more, _⟩, hmore, heq⟩ := h
      obtain ⟨rfl, rfl⟩ := Prod.mk.inj heq
      obtain ⟨hsplit, hline, hfirst⟩ := ih hmore
      refine ⟨congrArg (c :: ·) hsplit, List.not_mem_cons_of_ne_of_not_mem (Ne.symm hc) hline,
        nowhere_cons.mpr ⟨fun h => hfront ?_, hfirst⟩⟩
      rw [hsplit]
      exact (isPrefix_append_append_iff (c :: more)).mpr h
  · rintro ⟨rfl, hline, hfirst⟩
    exact splitAtMark?_append hmark hline hfirst

/-- **The first mark on a line comes no later than a given one**, and what is behind it ends alike. -/
theorem exists_splitAtMark? (mark after : List Char) {skipped : List Char} (hmark : mark ≠ [])
    (hmarkLine : '\n' ∉ mark) (hskipped : '\n' ∉ skipped) (hline : '\n' ∉ before) :
    ∃ first between, '\n' ∉ between ∧
      splitAtMark? mark (skipped ++ (before ++ mark ++ after)) = some (first, between ++ after) := by
  rw [← List.append_assoc, ← List.append_assoc]
  have hall : '\n' ∉ skipped ++ before ++ mark := by simp [hskipped, hline, hmarkLine]
  generalize skipped ++ before = given at hall ⊢
  induction given with
  | nil => exact ⟨[], [], List.not_mem_nil, splitAtMark?_append hmark List.not_mem_nil nowhere_nil⟩
  | cons c given ih =>
    by_cases hfront : mark <+: c :: given ++ mark
    · obtain ⟨between, hbetween⟩ := hfront
      refine ⟨[], between, fun h => hall (hbetween ▸ List.mem_append_right mark h), ?_⟩
      rw [← hbetween, List.append_assoc]
      show splitAtMark? mark ([] ++ mark ++ (between ++ after)) = _
      exact splitAtMark?_append hmark List.not_mem_nil nowhere_nil
    · obtain ⟨hc, hall⟩ := List.ne_and_not_mem_of_not_mem_cons hall
      obtain ⟨first, between, hbetween, hsplit⟩ := ih hall
      refine ⟨c :: first, between, hbetween, ?_⟩
      have hnot : ¬ mark <+: c :: (given ++ mark ++ after) :=
        mt (isPrefix_append_append_iff (c :: given)).mp hfront
      rw [List.cons_append, List.cons_append, splitAtMark?_cons hnot hc.symm, hsplit]
      rfl

end SplitAtMark

/-! ## Tokens -/

/-- The mark before a field. -/
abbrev fieldMark : List Char := ['$', '\x7b']

/-- The mark behind a field. -/
abbrev closingMark : List Char := ['\x7d']

/-- The mark before an optional token. -/
abbrev optionalMark : List Char := ['\x7b', '?']

/-- The mark behind an optional token. -/
abbrev endMark : List Char := ['?', '\x7d']

/-- **A token can start** in front of a text: one is written there, on one line. -/
def OpensToken (cs : List Char) : Prop := ∃ t : Token, t.text <+: cs ∧ '\n' ∉ t.text

/-- **A token ends as early as it can**: each of its parts at the first mark that closes it. -/
structure Token.IsLazy (t : Token) : Prop where
  field : EndsAtFirst closingMark t.field
  left : ∀ side ∈ t.sides, EndsAtFirst fieldMark side.1
  right : ∀ side ∈ t.sides, EndsAtFirst endMark side.2

section Tokens

variable {cs field left right after : List Char} {t : Token}

theorem text_field_append (field after : List Char) :
    Token.text ⟨field, none⟩ ++ after = fieldMark ++ (field ++ closingMark ++ after) := by
  simp [Token.text]

theorem text_optional_append (left field right after : List Char) :
    Token.text ⟨field, some (left, right)⟩ ++ after
      = optionalMark ++ (left ++ fieldMark ++ (field ++ closingMark ++ (right ++ endMark ++ after))) := by
  simp [Token.text]

/-- The marks are on the line of what is between them. -/
theorem not_mem_text_field : '\n' ∉ Token.text ⟨field, none⟩ ↔ '\n' ∉ field := by simp [Token.text]

theorem not_mem_text_optional : '\n' ∉ Token.text ⟨field, some (left, right)⟩ ↔
    '\n' ∉ left ∧ '\n' ∉ field ∧ '\n' ∉ right := by simp [Token.text]

theorem Token.length_text_pos (t : Token) : 0 < t.text.length := by
  obtain ⟨field, _ | ⟨left, right⟩⟩ := t <;> simp [text]

theorem takeToken?_field (rest : List Char) : takeToken? (fieldMark ++ rest)
    = (splitAtMark? closingMark rest).map fun (field, after) => (⟨field, none⟩, after) := rfl

theorem takeToken?_optional (rest : List Char) : takeToken? (optionalMark ++ rest) = (do
    let (left, rest) ← splitAtMark? fieldMark rest
    let (field, rest) ← splitAtMark? closingMark rest
    let (right, after) ← splitAtMark? endMark rest
    return (⟨field, some (left, right)⟩, after)) := rfl

/-- A lazy token on one line is taken from the front of a text. -/
theorem takeToken?_text_append (hline : '\n' ∉ t.text) (hlazy : t.IsLazy) (after : List Char) :
    takeToken? (t.text ++ after) = some (t, after) := by
  obtain ⟨field, _ | ⟨left, right⟩⟩ := t
  · rw [text_field_append, takeToken?_field,
      splitAtMark?_append (by simp) (not_mem_text_field.mp hline) hlazy.field]
    rfl
  · obtain ⟨hleft, hfield, hright⟩ := not_mem_text_optional.mp hline
    rw [text_optional_append, takeToken?_optional,
      splitAtMark?_append (by simp) hleft (hlazy.left _ rfl)]
    dsimp only [Option.bind_eq_bind, Option.bind_some]
    rw [splitAtMark?_append (by simp) hfield hlazy.field]
    dsimp only [Option.bind_some]
    rw [splitAtMark?_append (by simp) hright (hlazy.right _ rfl)]
    rfl

/-- **The token that is taken from the front of a text** is written there, on one line, and lazy. -/
theorem takeToken?_eq_some_iff :
    takeToken? cs = some (t, after) ↔ cs = t.text ++ after ∧ '\n' ∉ t.text ∧ t.IsLazy := by
  constructor
  · intro h
    unfold takeToken? at h
    split at h
    case h_1 rest =>
      obtain ⟨⟨field, _⟩, hfield, heq⟩ := Option.map_eq_some_iff.mp h
      obtain ⟨rfl, rfl⟩ := Prod.mk.inj heq
      obtain ⟨rfl, hline, hfirst⟩ := (splitAtMark?_eq_some_iff (by simp)).mp hfield
      exact ⟨(text_field_append _ _).symm, not_mem_text_field.mpr hline, hfirst, nofun, nofun⟩
    case h_2 rest =>
      obtain ⟨⟨left, _⟩, hleft, h⟩ := Option.bind_eq_some_iff.mp h
      obtain ⟨⟨field, _⟩, hfield, h⟩ := Option.bind_eq_some_iff.mp h
      obtain ⟨⟨right, _⟩, hright, h⟩ := Option.bind_eq_some_iff.mp h
      obtain ⟨rfl, rfl⟩ := Prod.mk.inj (Option.some.inj h)
      obtain ⟨rfl, hleftLine, hleftFirst⟩ := (splitAtMark?_eq_some_iff (by simp)).mp hleft
      obtain ⟨rfl, hfieldLine, hfieldFirst⟩ := (splitAtMark?_eq_some_iff (by simp)).mp hfield
      obtain ⟨rfl, hrightLine, hrightFirst⟩ := (splitAtMark?_eq_some_iff (by simp)).mp hright
      exact ⟨(text_optional_append _ _ _ _).symm,
        not_mem_text_optional.mpr ⟨hleftLine, hfieldLine, hrightLine⟩, hfieldFirst,
        fun _ hside => Option.mem_some_iff.mp hside ▸ hleftFirst,
        fun _ hside => Option.mem_some_iff.mp hside ▸ hrightFirst⟩
    case h_3 => cases h
  · rintro ⟨rfl, hline, hlazy⟩
    exact takeToken?_text_append hline hlazy after

/-- **Where a token can start, one is taken**: the first marks come no later than those of any token that is
written there. -/
theorem opensToken_iff : OpensToken cs ↔ ∃ t after, takeToken? cs = some (t, after) := by
  constructor
  · rintro ⟨⟨field, _ | ⟨left, right⟩⟩, ⟨after, rfl⟩, hline⟩
    · have hfield := not_mem_text_field.mp hline
      obtain ⟨first, between, -, hfirst⟩ := exists_splitAtMark? closingMark after (by simp)
        (by simp) List.not_mem_nil hfield
      rw [text_field_append, takeToken?_field, ← List.nil_append (field ++ closingMark ++ after), hfirst]
      exact ⟨_, _, rfl⟩
    · obtain ⟨hleft, hfield, hright⟩ := not_mem_text_optional.mp hline
      obtain ⟨first, between, hbetween, hfirst⟩ := exists_splitAtMark? fieldMark
        (field ++ closingMark ++ (right ++ endMark ++ after)) (by simp) (by simp)
        List.not_mem_nil hleft
      obtain ⟨second, between', hbetween', hsecond⟩ := exists_splitAtMark? closingMark
        (right ++ endMark ++ after) (by simp) (by simp) hbetween hfield
      obtain ⟨third, rest, -, hthird⟩ := exists_splitAtMark? endMark after (by simp)
        (by simp) hbetween' hright
      refine ⟨⟨second, some (first, third)⟩, rest ++ after, ?_⟩
      rw [text_optional_append, takeToken?_optional, ← List.nil_append (left ++ fieldMark ++ _), hfirst]
      dsimp only [Option.bind_eq_bind, Option.bind_some]
      rw [hsecond, Option.bind_some, hthird]
      rfl
  · rintro ⟨t, after, h⟩
    obtain ⟨rfl, hline, -⟩ := takeToken?_eq_some_iff.mp h
    exact ⟨t, List.prefix_append _ _, hline⟩

theorem not_opensToken_iff : ¬ OpensToken cs ↔ takeToken? cs = none := by
  rw [opensToken_iff]
  rcases takeToken? cs with _ | ⟨t, after⟩
  · exact iff_of_true (fun ⟨_, _, h⟩ => nomatch h) rfl
  · exact iff_of_false (not_not_intro ⟨t, after, rfl⟩) nofun

end Tokens

/-! ## Pieces -/

/-- The text of tokens with the literal after each. -/
def tailText (tail : List (Token × List Char)) : List Char :=
  tail.flatMap fun (t, literal) => t.text ++ literal

/-- **Pieces cut at the leftmost lazy tokens**: each token is on one line and ends as early as it can, and no
token could start within a literal, with the text that is really behind it. -/
structure Pieces.IsLeftmostLazy (p : Pieces) : Prop where
  oneLine : ∀ t ∈ p.tokens, '\n' ∉ t.text
  isLazy : ∀ t ∈ p.tokens, t.IsLazy
  head : Nowhere OpensToken p.head (tailText p.tail)
  following : ∀ before t literal after, p.tail = before ++ (t, literal) :: after →
    Nowhere OpensToken literal (tailText after)

section Pieces

variable {cs literal rest after : List Char} {t : Token} {tail : List (Token × List Char)} {p : Pieces}

theorem tailText_cons (t : Token) (literal : List Char) (tail : List (Token × List Char)) :
    tailText ((t, literal) :: tail) = t.text ++ (literal ++ tailText tail) := by
  rw [tailText, List.flatMap_cons, List.append_assoc]
  rfl

theorem Pieces.text_eq (p : Pieces) : p.text = p.head ++ tailText p.tail := rfl

theorem Pieces.isLeftmostLazy_nil :
    Pieces.IsLeftmostLazy ⟨literal, []⟩ ↔ Nowhere OpensToken literal [] := by
  refine ⟨fun h => h.head, fun h => ⟨nofun, nofun, h, fun before _ _ _ hsplit => ?_⟩⟩
  cases List.append_ne_nil_of_right_ne_nil before (List.cons_ne_nil _ _) hsplit.symm

theorem Pieces.isLeftmostLazy_cons :
    Pieces.IsLeftmostLazy ⟨literal, (t, rest) :: tail⟩ ↔
      Nowhere OpensToken literal (tailText ((t, rest) :: tail)) ∧ ('\n' ∉ t.text ∧ t.IsLazy) ∧
        Pieces.IsLeftmostLazy ⟨rest, tail⟩ := by
  constructor
  · rintro ⟨hline, hlazy, hhead, hfollowing⟩
    obtain ⟨hline₀, hline⟩ := List.forall_mem_cons.mp hline
    obtain ⟨hlazy₀, hlazy⟩ := List.forall_mem_cons.mp hlazy
    refine ⟨hhead, ⟨hline₀, hlazy₀⟩, hline, hlazy, hfollowing [] t rest tail rfl, ?_⟩
    intro before t' literal' after hsplit
    exact hfollowing ((t, rest) :: before) t' literal' after (congrArg ((t, rest) :: ·) hsplit)
  · rintro ⟨hhead, ⟨hline₀, hlazy₀⟩, hline, hlazy, hrest, hfollowing⟩
    refine ⟨List.forall_mem_cons.mpr ⟨hline₀, hline⟩, List.forall_mem_cons.mpr ⟨hlazy₀, hlazy⟩, hhead, ?_⟩
    rintro (_ | ⟨first, before⟩) t' literal' after hsplit
    · obtain ⟨heq, rfl⟩ := List.cons.inj hsplit
      obtain ⟨rfl, rfl⟩ := Prod.mk.inj heq
      exact hrest
    · exact hfollowing before t' literal' after (List.cons.inj hsplit).2

theorem scan_nil : scan [] = ⟨[], []⟩ := by
  rw [scan]
  rfl

theorem scan_of_takeToken? (h : takeToken? cs = some (t, after)) :
    scan cs = ⟨[], (t, (scan after).head) :: (scan after).tail⟩ := by
  rw [scan]
  split
  case h_1 hsome =>
    obtain ⟨rfl, rfl⟩ := Prod.mk.inj (Option.some.inj (hsome.symm.trans h))
    rfl
  case h_2 hnone => cases hnone.symm.trans h

theorem scan_cons {c : Char} (h : ¬ OpensToken (c :: rest)) :
    scan (c :: rest) = ⟨c :: (scan rest).head, (scan rest).tail⟩ := by
  rw [scan]
  split
  case h_1 hsome => cases (not_opensToken_iff.mp h).symm.trans hsome
  case h_2 => rfl

/-- A text within which no token can start is passed over. -/
theorem scan_append (h : Nowhere OpensToken literal rest) :
    scan (literal ++ rest) = ⟨literal ++ (scan rest).head, (scan rest).tail⟩ := by
  induction literal with
  | nil => rfl
  | cons c literal ih =>
    obtain ⟨hnot, h⟩ := nowhere_cons.mp h
    rw [List.cons_append, scan_cons hnot, ih h]
    rfl

/-- **Leftmost lazy pieces are found again.** -/
theorem scan_text (h : p.IsLeftmostLazy) : scan p.text = p := by
  obtain ⟨literal, tail⟩ := p
  induction tail generalizing literal with
  | nil =>
    have hliteral : Nowhere OpensToken literal (tailText []) := Pieces.isLeftmostLazy_nil.mp h
    rw [Pieces.text_eq, scan_append hliteral]
    simp only [tailText, List.flatMap_nil, scan_nil, List.append_nil]
  | cons part tail ih =>
    obtain ⟨t, next⟩ := part
    obtain ⟨hliteral, ⟨hline, hlazy⟩, hnext⟩ := Pieces.isLeftmostLazy_cons.mp h
    have hmore : scan (next ++ tailText tail) = ⟨next, tail⟩ := ih next hnext
    rw [Pieces.text_eq, scan_append hliteral, tailText_cons,
      scan_of_takeToken? (takeToken?_text_append hline hlazy _), hmore, List.append_nil]

/-- **What the scan gives** is the format again, cut at its leftmost lazy tokens. -/
theorem scan_spec (cs : List Char) : (scan cs).text = cs ∧ (scan cs).IsLeftmostLazy := by
  induction cs using scan.induct with
  | case1 cs t after h ih =>
    obtain ⟨htext, hlazy⟩ := ih
    obtain ⟨rfl, hline, htlazy⟩ := takeToken?_eq_some_iff.mp h
    rw [scan_of_takeToken? h]
    refine ⟨?_, Pieces.isLeftmostLazy_cons.mpr ⟨nowhere_nil, ⟨hline, htlazy⟩, hlazy⟩⟩
    rw [Pieces.text_eq, tailText_cons, List.nil_append, ← Pieces.text_eq, htext]
  | case2 h =>
    rw [scan_nil]
    exact ⟨rfl, Pieces.isLeftmostLazy_nil.mpr nowhere_nil⟩
  | case3 c rest h ih =>
    obtain ⟨htext, hlazy⟩ := ih
    have hnot := not_opensToken_iff.mpr h
    have hcons : ¬ OpensToken (c :: ((scan rest).head ++ tailText (scan rest).tail)) := by
      rwa [← Pieces.text_eq, htext]
    rw [scan_cons hnot]
    refine ⟨congrArg (c :: ·) htext, hlazy.oneLine, hlazy.isLazy, ?_, hlazy.following⟩
    exact nowhere_cons.mpr ⟨hcons, hlazy.head⟩

/-- **A format has one cut at leftmost lazy tokens, and the scan finds it.** -/
theorem scan_eq_iff : scan cs = p ↔ p.text = cs ∧ p.IsLeftmostLazy := by
  constructor
  · rintro rfl
    exact scan_spec cs
  · rintro ⟨rfl, h⟩
    exact scan_text h

end Pieces

end AuditTrail.LogFormat
