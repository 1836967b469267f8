import Mathlib.Data.List.Basic
import AuditTrail.Pattern.Replacement
import AuditTrail.Proofs.LogFormat.Scanning
import AuditTrail.Proofs.Pattern.Repetition

/-!
# Proofs/LogFormat/FieldPattern — the pattern of the tokens

    \$\{(.*?)}  |  \{\?(.*?)\$\{(.*?)}(.*?)\?}

Tokens have a pattern with lazy groups (`fieldPattern`), and cutting a format at the matches of that
pattern, with all the tries of its matching, is the scan (`cut_fieldPattern`).  A try beyond the first mark
behind a group never helps: where the rest of the pattern fails behind the first mark, it fails further on
the line (`FailsOnward`), so each group ends at its first mark (`runFrom_upTo`).
-/

namespace AuditTrail.LogFormat

open AuditTrail.Pattern

/-- In their case, and with `.` for all but the line break. -/
abbrev plainModes : Modes := ⟨false, false⟩

/-- The characters of a text. -/
def charNodes (cs : List Char) : List Node := cs.map fun c => .atom (.char c)

/-- A group of as few characters on the line as there can be. -/
def lazyGroup (index : Nat) : Node := .group index (.repetition true 0 none (.atom .any))

/-- A lazy group in front of a mark, and what is behind it. -/
def upTo (index : Nat) (mark : List Char) (ns : List Node) : List Node :=
  lazyGroup index :: (charNodes mark ++ ns)

/-- The pattern of a field behind its first mark. -/
def fieldNodes : List Node := upTo 1 closingMark []

/-- The pattern of an optional field behind its first mark. -/
def optionalNodes : List Node := upTo 2 fieldMark (upTo 3 closingMark (upTo 4 endMark []))

/-- **The pattern of a token.** -/
def fieldPattern : Compiled where
  node := .choice (.all (charNodes fieldMark ++ fieldNodes)) (.all (charNodes optionalMark ++ optionalNodes))
  modes := plainModes
  groupCount := 4
  names := []

example :
    Compiled.parse? plainModes "\\$\\\x7b(.*?)\x7d|\\\x7b\\?(.*?)\\$\\\x7b(.*?)\x7d(.*?)\\?\x7d"
      = some fieldPattern := by
  cbv

/-! ## Up to a mark -/

section UpTo

variable {ι β : Type} {mark : List Char} {s : Spot} {next : Next} {ns : List Node} {index : Nat}

theorem run_charNodes_append (cs : List Char) : (Node.all (charNodes cs ++ ns)).run plainModes s next
    = if cs.isPrefixOf s.rest then (Node.all ns).run plainModes (s.advance cs.length) next else none := by
  induction cs generalizing s with
  | nil => rfl
  | cons c cs ih =>
    rw [charNodes, List.map_cons, List.cons_append, run_all_cons]
    cases hs : s.rest with
    | nil =>
      rw [run_atom_nil hs]
      rfl
    | cons d rest =>
      rw [run_atom_cons hs, ← charNodes, ih, Spot.advance_rest, hs, Spot.advance_advance,
        List.length_cons, Nat.add_comm 1, List.isPrefixOf]
      by_cases hc : c = d <;> simp [Atom.accepts, hc]

theorem accepts_any_iff {c : Char} : Atom.any.accepts plainModes c = true ↔ c ≠ '\n' := by
  simp [Atom.accepts]

/-- **A search that fails at a place fails further on the line**, whatever else it is told. -/
def FailsOnward (find : ι → List Char → Option β) : Prop :=
  ∀ ⦃skipped after : List Char⦄ ⦃i : ι⦄, '\n' ∉ skipped → find i (skipped ++ after) = none →
    ∀ j, find j after = none

theorem FailsOnward.comp {κ : Type} {find : ι → List Char → Option β} (h : FailsOnward find) (f : κ → ι) :
    FailsOnward fun i => find (f i) :=
  fun _ _ _ hskipped hnone j => h hskipped hnone (f j)

theorem ne_newline_of_mark {c : Char} {rest : List Char} (hmark : mark ≠ []) (hline : '\n' ∉ mark)
    (h : mark <+: c :: rest) : c ≠ '\n' := by
  obtain ⟨x, mark, rfl⟩ := List.exists_cons_of_ne_nil hmark
  obtain ⟨rfl, -⟩ := List.cons_prefix_cons.mp h
  exact (List.ne_and_not_mem_of_not_mem_cons hline).1.symm

/-- What is behind a later mark on the line is further on than what is behind the one in front. -/
theorem exists_drop_of_splitAtMark? {c : Char} {rest before after : List Char} (hmark : mark ≠ [])
    (hline : '\n' ∉ mark) (hfront : mark <+: c :: rest)
    (hsplit : splitAtMark? mark rest = some (before, after)) :
    ∃ skipped, '\n' ∉ skipped ∧ (c :: rest).drop mark.length = skipped ++ after := by
  have hc := ne_newline_of_mark hmark hline hfront
  obtain ⟨rfl, hbefore, -⟩ := (splitAtMark?_eq_some_iff hmark).mp hsplit
  have hall : '\n' ∉ c :: (before ++ mark) := by simp [hc.symm, hbefore, hline]
  have hlength : mark.length ≤ (c :: (before ++ mark)).length := by
    simp only [List.length_cons, List.length_append]
    omega
  refine ⟨(c :: (before ++ mark)).drop mark.length, fun h => hall (List.mem_of_mem_drop h), ?_⟩
  rw [← List.drop_append_of_le_length hlength, List.cons_append]

/-- **The search behind each mark on the line**, the first one first. -/
def searchLine (mark : List Char) (find : Nat → List Char → Option β) (cs : List Char) : Option β :=
  (List.range (runLength plainModes .any cs + 1)).findSome? fun k =>
    if mark.isPrefixOf (cs.drop k) then find k ((cs.drop k).drop mark.length) else none

theorem searchLine_cons {c : Char} (hc : c ≠ '\n') (find : Nat → List Char → Option β) (rest : List Char) :
    searchLine mark find (c :: rest)
      = (if mark.isPrefixOf (c :: rest) then find 0 ((c :: rest).drop mark.length) else none).or
          (searchLine mark (fun k => find (k + 1)) rest) := by
  rw [searchLine, runLength_cons_of_accepts (accepts_any_iff.mpr hc), List.range_succ_eq_map,
    List.findSome?_cons, List.findSome?_map]
  simp only [List.drop_zero]
  split <;> rename_i hfirst <;> rw [hfirst] <;> rfl

theorem searchLine_newline (find : Nat → List Char → Option β) {rest : List Char}
    (h : ¬ mark <+: '\n' :: rest) : searchLine mark find ('\n' :: rest) = none := by
  have hstop : runLength plainModes .any ('\n' :: rest) = 0 := rfl
  rw [searchLine, hstop]
  simp [h]

/-- **The search behind the first mark settles the search**, when it fails onward. -/
theorem searchLine_eq (hmark : mark ≠ []) (hline : '\n' ∉ mark) {find : Nat → List Char → Option β}
    (hfind : FailsOnward find) (cs : List Char) : searchLine mark find cs
      = (splitAtMark? mark cs).bind fun (before, after) => find before.length after := by
  induction cs generalizing find with
  | nil =>
    obtain ⟨x, mark, rfl⟩ := List.exists_cons_of_ne_nil hmark
    rfl
  | cons c rest ih =>
    have hmore := ih (hfind.comp (· + 1))
    by_cases hfront : mark <+: c :: rest
    · rw [searchLine_cons (ne_newline_of_mark hmark hline hfront), hmore,
        if_pos (List.isPrefixOf_iff_prefix.mpr hfront), splitAtMark?_of_isPrefix hfront, Option.bind_some]
      cases hfirst : find 0 ((c :: rest).drop mark.length) with
      | some b => exact hfirst.symm
      | none =>
        rw [Option.none_or]
        refine Eq.trans ?_ hfirst.symm
        rw [Option.bind_eq_none_iff]
        rintro ⟨before, after⟩ hsplit
        obtain ⟨skipped, hskipped, hdrop⟩ := exists_drop_of_splitAtMark? hmark hline hfront hsplit
        exact hfind hskipped (hdrop ▸ hfirst) _
    by_cases hc : c = '\n'
    · subst hc
      rw [searchLine_newline find hfront, splitAtMark?_newline hfront]
      rfl
    · rw [searchLine_cons hc, if_neg (mt List.isPrefixOf_iff_prefix.mp hfront), Option.none_or, hmore,
        splitAtMark?_cons hfront hc]
      cases splitAtMark? mark rest <;> rfl

/-- A lazy group ends at each character on the line in turn. -/
theorem run_lazyGroup : (Node.all (lazyGroup index :: ns)).run plainModes s next
    = (List.range (runLength plainModes .any s.rest + 1)).findSome? fun k =>
        (Node.all ns).run plainModes
          ⟨s.position + k, s.rest.drop k, (index, s.position, s.position + k) :: s.captures⟩ next := by
  rw [run_all_cons, lazyGroup, Node.run, run_manyLazy]
  rfl

/-- Matching from a position on, with what the groups have captured so far. -/
def runFrom (ns : List Node) (next : Next) (place : Nat × List Capture) (cs : List Char) : Option Spot :=
  (Node.all ns).run plainModes ⟨place.1, cs, place.2⟩ next

/-- **A lazy group with a mark behind it** ends at the first mark on the line. -/
theorem runFrom_upTo (hmark : mark ≠ []) (hline : '\n' ∉ mark) (hns : FailsOnward (runFrom ns next))
    (position : Nat) (captures : List Capture) (cs : List Char) :
    runFrom (upTo index mark ns) next (position, captures) cs
      = (splitAtMark? mark cs).bind fun (before, after) =>
          runFrom ns next (position + before.length + mark.length,
            (index, position, position + before.length) :: captures) after := by
  have hfind := hns.comp fun k => (position + k + mark.length, (index, position, position + k) :: captures)
  rw [← searchLine_eq hmark hline hfind, runFrom, upTo, run_lazyGroup]
  simp only [run_charNodes_append]
  rfl

theorem failsOnward_nil : FailsOnward (runFrom [] some) := fun _ _ _ _ h => nomatch h

/-- What fails from the first mark on fails from every later one. -/
theorem FailsOnward.upTo (hmark : mark ≠ []) (hline : '\n' ∉ mark) (hns : FailsOnward (runFrom ns next)) :
    FailsOnward (runFrom (upTo index mark ns) next) := by
  rintro skipped cs ⟨position, captures⟩ hskipped h ⟨position', captures'⟩
  rw [runFrom_upTo hmark hline hns, Option.bind_eq_none_iff] at h ⊢
  rintro ⟨before, after⟩ hsplit
  obtain ⟨rfl, hbefore, -⟩ := (splitAtMark?_eq_some_iff hmark).mp hsplit
  obtain ⟨first, between, hbetween, hfirst⟩ := exists_splitAtMark? mark after hmark hline hskipped hbefore
  exact hns hbetween (h _ hfirst) _

end UpTo

/-! ## One token -/

/-- What the groups capture of a token that starts at a position, the newest first. -/
def Token.captures (position : Nat) (t : Token) : List Capture :=
  match t.sides with
  | none => [(1, position + 2, position + 2 + t.field.length)]
  | some (left, right) =>
    let middle := position + 2 + left.length + 2
    let behind := middle + t.field.length + 1
    [(4, behind, behind + right.length), (3, middle, middle + t.field.length),
      (2, position + 2, position + 2 + left.length)]

section Match

variable {position : Nat} {cs : List Char}

theorem matchAt?_eq : fieldPattern.matchAt? false position cs =
    (runFrom (charNodes fieldMark ++ fieldNodes) some (position, []) cs).orElse fun _ =>
      runFrom (charNodes optionalMark ++ optionalNodes) some (position, []) cs :=
  rfl

theorem runFrom_charNodes_append (mark : List Char) (ns : List Node) (next : Next)
    (captures : List Capture) : runFrom (charNodes mark ++ ns) next (position, captures) cs
      = if mark.isPrefixOf cs then runFrom ns next (position + mark.length, captures) (cs.drop mark.length)
        else none :=
  run_charNodes_append mark

/-- The first choice is a field. -/
theorem runFrom_fieldNodes (rest : List Char) : runFrom fieldNodes some (position + 2, []) rest
    = (takeToken? (fieldMark ++ rest)).map fun (t, after) =>
        ⟨position + t.text.length, after, t.captures position⟩ := by
  rw [fieldNodes, runFrom_upTo (by simp) (by simp) failsOnward_nil, takeToken?_field]
  rcases splitAtMark? closingMark rest with _ | ⟨field, after⟩
  · rfl
  · simp only [Option.bind_some, Option.map_some, Token.captures, Token.text]
    simp [runFrom, Node.all, Node.run]
    omega

/-- The second choice is an optional field. -/
theorem runFrom_optionalNodes (rest : List Char) : runFrom optionalNodes some (position + 2, []) rest
    = (takeToken? (optionalMark ++ rest)).map fun (t, after) =>
        ⟨position + t.text.length, after, t.captures position⟩ := by
  have hright : FailsOnward (runFrom (upTo 4 endMark []) some) := .upTo (by simp) (by simp) failsOnward_nil
  have hfield : FailsOnward (runFrom (upTo 3 closingMark (upTo 4 endMark [])) some) :=
    .upTo (by simp) (by simp) hright
  rw [optionalNodes, runFrom_upTo (by simp) (by simp) hfield, takeToken?_optional]
  rcases splitAtMark? fieldMark rest with _ | ⟨left, rest⟩
  · rfl
  dsimp only [Option.bind_eq_bind, Option.bind_some]
  rw [runFrom_upTo (by simp) (by simp) hright]
  rcases splitAtMark? closingMark rest with _ | ⟨field, rest⟩
  · rfl
  dsimp only [Option.bind_some]
  rw [runFrom_upTo (by simp) (by simp) failsOnward_nil]
  rcases splitAtMark? endMark rest with _ | ⟨right, after⟩
  · rfl
  simp only [Option.bind_some, Token.captures, Token.text]
  simp [runFrom, Node.all, Node.run]
  omega

/-- **The pattern matches where a token can be taken**, just that token. -/
theorem matchAt?_fieldPattern (position : Nat) (cs : List Char) :
    fieldPattern.matchAt? false position cs = (takeToken? cs).map fun (t, after) =>
      ⟨position + t.text.length, after, t.captures position⟩ := by
  rw [matchAt?_eq, runFrom_charNodes_append, runFrom_charNodes_append]
  by_cases hfield : fieldMark <+: cs
  · obtain ⟨rest, rfl⟩ := hfield
    have hnot : ¬ optionalMark.isPrefixOf (fieldMark ++ rest) = true := by simp [List.isPrefixOf]
    rw [if_pos (List.isPrefixOf_iff_prefix.mpr ⟨rest, rfl⟩), if_neg hnot, List.drop_left]
    refine Eq.trans ?_ (runFrom_fieldNodes rest)
    cases runFrom fieldNodes some (position + 2, []) rest <;> rfl
  rw [if_neg (mt List.isPrefixOf_iff_prefix.mp hfield), Option.orElse_none]
  by_cases hoptional : optionalMark <+: cs
  · obtain ⟨rest, rfl⟩ := hoptional
    rw [if_pos (List.isPrefixOf_iff_prefix.mpr ⟨rest, rfl⟩), List.drop_left]
    exact runFrom_optionalNodes rest
  rw [if_neg (mt List.isPrefixOf_iff_prefix.mp hoptional)]
  rcases htake : takeToken? cs with _ | ⟨t, after⟩
  · rfl
  · obtain ⟨rfl, -, -⟩ := takeToken?_eq_some_iff.mp htake
    obtain ⟨field, _ | ⟨left, right⟩⟩ := t
    · exact absurd ⟨_, (text_field_append field after).symm⟩ hfield
    · exact absurd ⟨_, (text_optional_append left field right after).symm⟩ hoptional

end Match

/-! ## The whole format -/

/-- What a group captured of a text, if it took part. -/
def groupText? (text : List Char) (found : Spot) (index : Nat) : Option (List Char) :=
  (found.span? index).map fun (start, finish) => Replacement.between text start finish

/-- The token of a match: a field when the first group took part, else an optional field. -/
def tokenAt (text : List Char) (found : Spot) : Token :=
  match groupText? text found 1 with
  | some field => ⟨field, none⟩
  | none => ⟨(groupText? text found 3).getD [],
      some ((groupText? text found 2).getD [], (groupText? text found 4).getD [])⟩

/-- The rest of a text from a spot on, cut at the matches in it; `fuel` bounds their number. -/
def cutFrom (p : Compiled) (text : List Char) :
    (fuel : Nat) → (advance : Bool) → (position : Nat) → List Char → Pieces
  | 0, _, _, rest => ⟨rest, []⟩
  | fuel + 1, advance, position, rest =>
    match p.find? advance position rest with
    | none => ⟨rest, []⟩
    | some (passed, start, found) =>
      let more := cutFrom p text fuel (found.position == start) found.position found.rest
      ⟨passed, (tokenAt text found, more.head) :: more.tail⟩

/-- **A text cut at every match**, as matches are replaced. -/
def cut (p : Compiled) (text : List Char) : Pieces := cutFrom p text (2 * text.length + 2) false 0 text

section Cut

variable {text before inside after rest : List Char} {position start : Nat} {t : Token} {literal : List Char}
  {tail : List (Token × List Char)}

theorem between_eq (position : Nat) (before after : List Char)
    (h : text.drop position = before ++ (inside ++ after)) (hstart : start = position + before.length) :
    Replacement.between text start (start + inside.length) = inside := by
  rw [Replacement.between, hstart, ← List.drop_drop, h, List.drop_left, Nat.add_sub_cancel_left, List.take_left]

/-- **The groups give the token back.** -/
theorem tokenAt_captures (h : text.drop position = t.text ++ after) (finish : Nat) (rest : List Char) :
    tokenAt text ⟨finish, rest, t.captures position⟩ = t := by
  obtain ⟨field, _ | ⟨left, right⟩⟩ := t
  · rw [text_field_append] at h
    have hfield : groupText? text ⟨finish, rest, Token.captures position ⟨field, none⟩⟩ 1 = some field :=
      congrArg some (between_eq position fieldMark (closingMark ++ after) (by simp [h]) rfl)
    rw [tokenAt, hfield]
  · rw [text_optional_append] at h
    let found : Spot := ⟨finish, rest, Token.captures position ⟨field, some (left, right)⟩⟩
    have hnone : groupText? text found 1 = none := rfl
    have hleft : groupText? text found 2 = some left :=
      congrArg some (between_eq position optionalMark
        (fieldMark ++ (field ++ closingMark ++ (right ++ endMark ++ after))) (by simp [h]) rfl)
    have hfield : groupText? text found 3 = some field :=
      congrArg some (between_eq position (optionalMark ++ left ++ fieldMark)
        (closingMark ++ (right ++ endMark ++ after)) (by simp [h]) (by simp; omega))
    have hright : groupText? text found 4 = some right :=
      congrArg some (between_eq position
        (optionalMark ++ left ++ fieldMark ++ field ++ closingMark) (endMark ++ after) (by simp [h])
        (by simp; omega))
    rw [tokenAt, hnone, hleft, hfield, hright]
    rfl

/-- The first match from a position on is the first token. -/
theorem find?_fieldPattern (position : Nat) (cs : List Char) :
    fieldPattern.find? false position cs = match scan cs with
      | ⟨_, []⟩ => none
      | ⟨head, (t, literal) :: tail⟩ =>
        let start := position + head.length
        some (head, start, ⟨start + t.text.length, literal ++ tailText tail, t.captures start⟩) := by
  induction cs generalizing position with
  | nil =>
    rw [Compiled.find?, matchAt?_fieldPattern, scan_nil]
    rfl
  | cons c rest ih =>
    rw [Compiled.find?, matchAt?_fieldPattern]
    rcases htake : takeToken? (c :: rest) with _ | ⟨t, after⟩
    · rw [scan_cons (not_opensToken_iff.mpr htake)]
      dsimp only [Option.map_none]
      rw [ih]
      rcases scan rest with ⟨head, _ | ⟨⟨t, literal⟩, tail⟩⟩
      · rfl
      · simp [Nat.add_assoc, Nat.add_comm 1]
    · rw [scan_of_takeToken? htake]
      have hafter : (scan after).head ++ tailText (scan after).tail = after := (scan_spec after).1
      simp [hafter]

/-- **From any spot on**, with fuel for every character, the matches are cut as the tokens are. -/
theorem cutFrom_fieldPattern (fuel position : Nat) (rest : List Char) (hrest : text.drop position = rest)
    (hfuel : rest.length < fuel) : cutFrom fieldPattern text fuel false position rest = scan rest := by
  induction fuel generalizing position rest with
  | zero => exact absurd hfuel (Nat.not_lt_zero _)
  | succ fuel ih =>
    obtain ⟨htext, hlazy⟩ := scan_spec rest
    rw [cutFrom, find?_fieldPattern]
    rcases hscan : scan rest with ⟨head, _ | ⟨⟨t, literal⟩, tail⟩⟩ <;> rw [hscan] at htext hlazy
    · obtain rfl : head = rest := (List.append_nil head).symm.trans htext
      rfl
    · obtain ⟨-, ⟨hline, htlazy⟩, hmore⟩ := Pieces.isLeftmostLazy_cons.mp hlazy
      rw [Pieces.text_eq, tailText_cons] at htext
      have hpos := t.length_text_pos
      have hlength : (literal ++ tailText tail).length < rest.length := by
        simp only [← htext, List.length_append]
        omega
      have htoken : text.drop (position + head.length) = t.text ++ (literal ++ tailText tail) := by
        rw [← List.drop_drop, hrest, ← htext, List.drop_left]
      have hbehind : text.drop (position + head.length + t.text.length) = literal ++ tailText tail := by
        rw [← List.drop_drop, htoken, List.drop_left]
      -- A token is never empty, so the next match may be empty: the flag stays down.
      have hadvance : (position + head.length + t.text.length == position + head.length) = false :=
        beq_eq_false_iff_ne.mpr (by omega)
      have hscanMore : scan (literal ++ tailText tail) = ⟨literal, tail⟩ := scan_text hmore
      dsimp only
      rw [tokenAt_captures htoken, hadvance, ih _ _ hbehind (by omega), hscanMore]

/-- **Cutting at the matches of the pattern is the scan.** -/
theorem cut_fieldPattern (text : List Char) : cut fieldPattern text = scan text :=
  cutFrom_fieldPattern _ 0 text List.drop_zero (by omega)

end Cut

end AuditTrail.LogFormat
