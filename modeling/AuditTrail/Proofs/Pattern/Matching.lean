import AuditTrail.Pattern.Match

/-!
# Proofs/Pattern/Matching — what a pattern matches, whatever the order of the tries

    s ──Node.Leads──▸ t          run s next = some u   ──▸   next t = some u  for a spot t it leads to
                                 next t succeeds there ──▸   run s next succeeds

`Node.Leads` says to which spots a pattern leads, with one rule for each construct and neither fuel nor
tries.  Trying finds such spots only (`exists_leads_of_run`), and it finds one wherever there is one
(`isSome_run_of_leads`): leaving out the rounds of a repetition that match nothing leads to the same place,
and there is fuel for all others.  So a text has a full match exactly when its pattern leads to its end
(`fullMatch?_eq_none_iff`), and what the groups have captured lies in the text (`Ahead.captured`).
-/

namespace AuditTrail.Pattern

/-! ## Where a pattern leads -/

/-- **A number of rounds**, one after the other. -/
def Rounds (round : Spot → Spot → Prop) : Nat → Spot → Spot → Prop
  | 0, s, t => s = t
  | n + 1, s, t => ∃ between, round s between ∧ Rounds round n between t

/-- **The pattern leads from a spot to another one.**  A repetition has as many rounds as its bounds allow;
where the upper bound is below the lower one, it is the lower one that counts. -/
def Node.Leads (modes : Modes) : Node → Spot → Spot → Prop
  | .empty, s, t => s = t
  | .atom a, s, t =>
    ∃ c rest, s.rest = c :: rest ∧ a.accepts modes c = true ∧ t = ⟨s.position + 1, rest, s.captures⟩
  | .start, s, t => s.position = 0 ∧ s = t
  | .finish, s, t => (s.rest = [] ∨ s.rest = ['\n']) ∧ s = t
  | .sequence first second, s, t =>
    ∃ between, first.Leads modes s between ∧ second.Leads modes between t
  | .choice first second, s, t => first.Leads modes s t ∨ second.Leads modes s t
  | .repetition _ least most body, s, t =>
    ∃ n, least ≤ n ∧ (∀ m ∈ most, n ≤ max least m) ∧ Rounds (body.Leads modes) n s t
  | .group index body, s, t => ∃ inside, body.Leads modes s inside ∧
    t = { inside with captures := (index, s.position, inside.position) :: inside.captures }

/-- **The pattern matches the whole text.** -/
def Compiled.Matches (p : Compiled) (text : List Char) : Prop :=
  ∃ t, p.node.Leads p.modes (.before text) t ∧ t.rest = []

variable {modes : Modes} {node : Node} {s t u : Spot} {next : Next}

/-! ## Forward through the text -/

/-- **A spot further on**: some characters are passed over, and every group that captured on the way did so
between the two spots. -/
structure Spot.Ahead (s t : Spot) : Prop where
  passed : ∃ passed, s.rest = passed ++ t.rest ∧ t.position = s.position + passed.length
  captured : ∀ capture ∈ t.captures, capture ∈ s.captures ∨
    s.position ≤ capture.2.1 ∧ capture.2.1 ≤ capture.2.2 ∧ capture.2.2 ≤ t.position

namespace Spot.Ahead

theorem refl (s : Spot) : s.Ahead s := ⟨⟨[], rfl, rfl⟩, fun _ => .inl⟩

theorem position_le (h : s.Ahead t) : s.position ≤ t.position := by
  obtain ⟨passed, -, hposition⟩ := h.passed
  omega

theorem trans (hst : s.Ahead t) (htu : t.Ahead u) : s.Ahead u := by
  have hforward := hst.position_le
  have honward := htu.position_le
  obtain ⟨first, hfirst, htposition⟩ := hst.passed
  obtain ⟨second, hsecond, huposition⟩ := htu.passed
  refine ⟨⟨first ++ second, ?_, ?_⟩, fun capture hcapture => ?_⟩
  · rw [hfirst, hsecond, List.append_assoc]
  · rw [List.length_append]
    omega
  · rcases htu.captured capture hcapture with hthere | hsince
    · exact (hst.captured capture hthere).imp_right fun h => by omega
    · exact .inr (by omega)

/-- A group captures what lies behind the spot where it began. -/
theorem capturing (h : s.Ahead t) (index : Nat) :
    s.Ahead { t with captures := (index, s.position, t.position) :: t.captures } := by
  refine ⟨h.passed, fun capture hcapture => ?_⟩
  rcases List.mem_cons.mp hcapture with rfl | hthere
  · exact .inr ⟨Nat.le_refl _, h.position_le, Nat.le_refl _⟩
  · exact h.captured capture hthere

end Spot.Ahead

theorem Rounds.ahead {round : Spot → Spot → Prop} (hround : ∀ s t, round s t → s.Ahead t) {n : Nat}
    (h : Rounds round n s t) : s.Ahead t := by
  induction n generalizing s with
  | zero => exact h ▸ .refl s
  | succ n ih =>
    obtain ⟨between, hfirst, hrest⟩ := h
    exact (hround s between hfirst).trans (ih hrest)

/-- **A pattern leads forward.** -/
theorem Node.Leads.ahead (h : node.Leads modes s t) : s.Ahead t := by
  induction node generalizing s t with
  | empty => exact h ▸ .refl s
  | atom a =>
    obtain ⟨c, rest, hrest, -, rfl⟩ := h
    exact ⟨⟨[c], hrest, rfl⟩, fun _ => .inl⟩
  | start => exact h.2 ▸ .refl s
  | finish => exact h.2 ▸ .refl s
  | sequence first second hfirst hsecond =>
    obtain ⟨between, h₁, h₂⟩ := h
    exact (hfirst h₁).trans (hsecond h₂)
  | choice first second hfirst hsecond => exact h.elim hfirst hsecond
  | repetition lazy least most body hbody =>
    obtain ⟨n, -, -, hrounds⟩ := h
    exact hrounds.ahead fun _ _ => hbody
  | group index body hbody =>
    obtain ⟨inside, hinside, rfl⟩ := h
    exact (hbody hinside).capturing index

/-! ## Trying finds nothing else -/

section Repetition

variable {body : Spot → Next → Option Spot} {round : Spot → Spot → Prop} {lazy : Bool} {least : Nat}
  {most : Option Nat} {fuel count : Nat} {last : Option Nat}

/-- **One round more**, where the bounds allow it and the round before did not begin at the same place. -/
def goOn (body : Spot → Next → Option Spot) (lazy : Bool) (least : Nat) (most : Option Nat) (next : Next)
    (fuel count : Nat) (last : Option Nat) (s : Spot) : Option Spot :=
  if most.all (count < ·) && last != some s.position then
    body s (repeatRun body lazy least most next fuel (count + 1) (some s.position))
  else none

/-- With the rounds that have to be, a repetition tries to come back and to go on, in the order of its
kind. -/
theorem repeatRun_of_le (hcount : least ≤ count) :
    repeatRun body lazy least most next (fuel + 1) count last s
      = if lazy then (next s).or (goOn body lazy least most next fuel count last s)
        else (goOn body lazy least most next fuel count last s).or (next s) := by
  rw [repeatRun, if_neg (Nat.not_lt.mpr hcount)]
  dsimp only
  rw [Option.orElse_eq_or, Option.orElse_eq_or, goOn]

/-- **A repetition comes back or it goes on**, and goes on only as far as the bounds allow. -/
theorem stops_or_goes_on (h : repeatRun body lazy least most next (fuel + 1) count last s = some u) :
    least ≤ count ∧ next s = some u ∨
      ∃ last', (count < least ∨ ∀ m ∈ most, count < m) ∧
        body s (repeatRun body lazy least most next fuel (count + 1) last') = some u := by
  rcases Nat.lt_or_ge count least with hfew | hcount
  · rw [repeatRun, if_pos hfew] at h
    exact .inr ⟨last, .inl hfew, h⟩
  · have hfound : next s = some u ∨ goOn body lazy least most next fuel count last s = some u := by
      rw [repeatRun_of_le hcount] at h
      split at h
      · exact (Option.or_eq_some_iff.mp h).imp_right And.right
      · exact (Option.or_eq_some_iff.mp h).symm.imp_left And.right
    refine hfound.imp (⟨hcount, ·⟩) fun hmore => ?_
    obtain ⟨hgo, hmore⟩ := Option.ite_none_right_eq_some.mp hmore
    rw [Bool.and_eq_true, Option.all_eq_true] at hgo
    exact ⟨_, .inr fun m hm => of_decide_eq_true (hgo.1 m hm), hmore⟩

/-- Repeating finds spots only to which rounds lead.  The rounds that are still to come are as many as the
bounds allow beside the `count` that are done. -/
theorem exists_rounds_of_repeatRun
    (hbody : ∀ s next u, body s next = some u → ∃ t, round s t ∧ next t = some u)
    (h : repeatRun body lazy least most next fuel count last s = some u) :
    ∃ n t, least ≤ count + n ∧ (∀ m ∈ most, n = 0 ∨ count + n ≤ max least m) ∧ Rounds round n s t ∧
      next t = some u := by
  induction fuel generalizing count last s with
  | zero => cases h
  | succ fuel ih =>
    rcases stops_or_goes_on h with ⟨hcount, hnext⟩ | ⟨last', hcount, hmore⟩
    · exact ⟨0, s, hcount, fun m _ => .inl rfl, rfl, hnext⟩
    · obtain ⟨between, hround, hrest⟩ := hbody _ _ _ hmore
      obtain ⟨n, t, hleast, hmost, hrounds, hnext⟩ := ih hrest
      refine ⟨n + 1, t, by omega, fun m hm => .inr ?_, ⟨between, hround, hrounds⟩, hnext⟩
      have hbegun : count < least ∨ count < m := hcount.imp_right fun h => h m hm
      rcases hmost m hm with hnone | hbound <;> omega

end Repetition

/-- **What trying finds is where the pattern leads**, and what comes next succeeds there. -/
theorem exists_leads_of_run (h : node.run modes s next = some u) :
    ∃ t, node.Leads modes s t ∧ next t = some u := by
  induction node generalizing s next u with
  | empty => exact ⟨s, rfl, h⟩
  | atom a =>
    rw [Node.run] at h
    split at h
    · cases h
    · rename_i c rest hrest
      split at h
      case isTrue haccepts => exact ⟨_, ⟨c, rest, hrest, haccepts, rfl⟩, h⟩
      case isFalse => cases h
  | start =>
    obtain ⟨hstart, hnext⟩ := Option.ite_none_right_eq_some.mp h
    exact ⟨s, ⟨hstart, rfl⟩, hnext⟩
  | finish =>
    obtain ⟨hfinish, hnext⟩ := Option.ite_none_right_eq_some.mp h
    exact ⟨s, ⟨hfinish, rfl⟩, hnext⟩
  | sequence first second hfirst hsecond =>
    obtain ⟨between, hbetween, hrest⟩ := hfirst h
    obtain ⟨t, ht, hnext⟩ := hsecond hrest
    exact ⟨t, ⟨between, hbetween, ht⟩, hnext⟩
  | choice first second hfirst hsecond =>
    rw [Node.run, Option.orElse_eq_or] at h
    rcases Option.or_eq_some_iff.mp h with h | ⟨-, h⟩
    · obtain ⟨t, ht, hnext⟩ := hfirst h
      exact ⟨t, .inl ht, hnext⟩
    · obtain ⟨t, ht, hnext⟩ := hsecond h
      exact ⟨t, .inr ht, hnext⟩
  | repetition lazy least most body hbody =>
    rw [Node.run] at h
    have hround (s : Spot) (next : Next) (u : Spot) (h : body.run modes s next = some u) :
        ∃ t, body.Leads modes s t ∧ next t = some u := hbody h
    obtain ⟨n, t, hleast, hmost, hrounds, hnext⟩ := exists_rounds_of_repeatRun hround h
    refine ⟨t, ⟨n, by omega, fun m hm => ?_, hrounds⟩, hnext⟩
    rcases hmost m hm with hnone | hbound <;> omega
  | group index body hbody =>
    obtain ⟨inside, hinside, hnext⟩ := hbody h
    exact ⟨_, ⟨inside, hinside, rfl⟩, hnext⟩

/-! ## Trying finds what there is

Whether a search succeeds is not asked of the captures: rounds that match nothing may be left out, although
what they captured goes with them. -/

/-- **The same place of the text**, whatever has been captured. -/
def Spot.SamePlace (s t : Spot) : Prop := s.position = t.position ∧ s.rest = t.rest

/-- Where no character is passed over, the place is the same. -/
theorem Spot.Ahead.samePlace (h : s.Ahead t) (hposition : t.position = s.position) : s.SamePlace t := by
  obtain ⟨passed, hrest, hpassed⟩ := h.passed
  have hnone : passed = [] := List.eq_nil_of_length_eq_zero (by omega)
  rw [hnone] at hrest
  exact ⟨hposition.symm, hrest⟩

theorem Spot.Ahead.length_rest (h : s.Ahead t) :
    s.rest.length + s.position = t.rest.length + t.position := by
  obtain ⟨passed, hrest, hpassed⟩ := h.passed
  rw [hrest, List.length_append]
  omega

section Repetition

variable {body : Spot → Next → Option Spot} {round : Spot → Spot → Prop} {lazy : Bool} {least : Nat}
  {most : Option Nat} {fuel count : Nat} {last : Option Nat}

theorem isSome_repeatRun_iff (hcount : least ≤ count) :
    (repeatRun body lazy least most next (fuel + 1) count last s).isSome ↔
      (next s).isSome ∨ (goOn body lazy least most next fuel count last s).isSome := by
  rw [repeatRun_of_le hcount]
  split <;> rw [Option.isSome_or, Bool.or_eq_true]
  exact or_comm

theorem isSome_goOn (hmost : ∀ m ∈ most, count < m) (hlast : last ≠ some s.position)
    (h : (body s (repeatRun body lazy least most next fuel (count + 1) (some s.position))).isSome) :
    (goOn body lazy least most next fuel count last s).isSome := by
  have hgo : (most.all (count < ·) && last != some s.position) = true := by
    rw [Bool.and_eq_true, Option.all_eq_true, bne_iff_ne]
    exact ⟨fun m hm => decide_eq_true (hmost m hm), hlast⟩
  rwa [goOn, if_pos hgo]

/-- **Repeating finds what rounds lead to**, with fuel for the rounds that have to be and for each character
that is left.  A round that matches nothing, where it does not have to be, is left out; so the round before
began earlier in the text, and the next one is not refused. -/
theorem isSome_repeatRun_of_rounds (hahead : ∀ s t, round s t → s.Ahead t)
    (hbody : ∀ {s t s' : Spot} {next : Next}, round s t → s.SamePlace s' →
      (∀ t', t.SamePlace t' → (next t').isSome) → (body s' next).isSome)
    {n : Nat} {s' : Spot} (hrounds : Rounds round n s t) (hsame : s.SamePlace s')
    (hleast : least ≤ count + n) (hmost : ∀ m ∈ most, count + n ≤ max least m)
    (hlast : ∀ p, last = some p → p < s.position) (hfuel : least - count + s.rest.length < fuel)
    (hnext : ∀ t', t.SamePlace t' → (next t').isSome) :
    (repeatRun body lazy least most next fuel count last s').isSome := by
  induction n generalizing fuel count last s s' with
  | zero =>
    obtain ⟨fuel, rfl⟩ := Nat.exists_eq_add_of_lt hfuel
    exact (isSome_repeatRun_iff hleast).mpr (.inl (hnext s' (hrounds ▸ hsame)))
  | succ n ih =>
    obtain ⟨between, hround, hrest⟩ := hrounds
    have hforward := hahead s between hround
    have hlength := hforward.length_rest
    have hposition := hforward.position_le
    obtain ⟨fuel, rfl⟩ : ∃ k, fuel = k + 1 := ⟨fuel - 1, by omega⟩
    by_cases hcount : count < least
    · rw [repeatRun, if_pos hcount]
      exact hbody hround hsame fun t' ht' => ih hrest ht' (by omega)
        (fun m hm => Nat.le_trans (by omega) (hmost m hm))
        (fun p hp => Nat.lt_of_lt_of_le (hlast p hp) hposition) (by omega)
    · by_cases hempty : between.position = s.position
      · have hplace := hforward.samePlace hempty
        exact ih hrest ⟨hempty.trans hsame.1, hplace.2.symm.trans hsame.2⟩ (by omega)
          (fun m hm => Nat.le_trans (by omega) (hmost m hm))
          (fun p hp => Nat.lt_of_lt_of_le (hlast p hp) hposition) (by omega)
      · refine (isSome_repeatRun_iff (Nat.le_of_not_lt hcount)).mpr
          (.inr (isSome_goOn (fun m hm => ?_) (fun hp => ?_) ?_))
        · have := hmost m hm
          omega
        · exact absurd hsame.1 (Nat.ne_of_gt (hlast s'.position hp))
        · refine hbody hround hsame fun t' ht' => ih hrest ht' (by omega)
            (fun m hm => Nat.le_trans (by omega) (hmost m hm)) (fun p hp => ?_) (by omega)
          rw [← Option.some.inj hp, ← hsame.1]
          omega

end Repetition

/-- **Trying succeeds where the pattern leads** to a place at which what comes next succeeds. -/
theorem isSome_run_of_leads {s' : Spot} (h : node.Leads modes s t) (hsame : s.SamePlace s')
    (hnext : ∀ t', t.SamePlace t' → (next t').isSome) : (node.run modes s' next).isSome := by
  induction node generalizing s t s' next with
  | empty => exact hnext s' (h ▸ hsame)
  | atom a =>
    obtain ⟨c, rest, hrest, haccepts, rfl⟩ := h
    rw [Node.run, ← hsame.2, hrest]
    dsimp only
    rw [if_pos haccepts]
    exact hnext _ ⟨congrArg (· + 1) hsame.1, rfl⟩
  | start =>
    obtain ⟨hstart, rfl⟩ := h
    rw [Node.run, if_pos (hsame.1 ▸ hstart)]
    exact hnext s' hsame
  | finish =>
    obtain ⟨hfinish, rfl⟩ := h
    rw [Node.run, if_pos (hsame.2 ▸ hfinish)]
    exact hnext s' hsame
  | sequence first second hfirst hsecond =>
    obtain ⟨between, h₁, h₂⟩ := h
    exact hfirst h₁ hsame fun _ hbetween => hsecond h₂ hbetween hnext
  | choice first second hfirst hsecond =>
    rw [Node.run, Option.orElse_eq_or, Option.isSome_or, Bool.or_eq_true]
    exact h.imp (hfirst · hsame hnext) (hsecond · hsame hnext)
  | repetition lazy least most body hbody =>
    obtain ⟨n, hleast, hmost, hrounds⟩ := h
    rw [Node.run]
    exact isSome_repeatRun_of_rounds (fun _ _ => Node.Leads.ahead) hbody hrounds hsame (by omega)
      (fun m hm => by have := hmost m hm; omega) nofun (by rw [hsame.2]; omega) hnext
  | group index body hbody =>
    obtain ⟨inside, hinside, rfl⟩ := h
    exact hbody hinside hsame fun t' ht' => hnext _ ht'

/-! ## Full matches -/

namespace Compiled

variable {p : Compiled} {text : List Char} {found : Spot}

theorem leads_of_fullMatch? (h : p.fullMatch? text = some found) :
    p.node.Leads p.modes (.before text) found ∧ found.rest = [] := by
  obtain ⟨t, hleads, hnext⟩ := exists_leads_of_run h
  obtain ⟨hrest, hfound⟩ := Option.ite_none_right_eq_some.mp hnext
  obtain rfl := Option.some.inj hfound
  exact ⟨hleads, List.isEmpty_iff.mp hrest⟩

/-- **There is no full match exactly when the pattern does not match the whole text.** -/
theorem fullMatch?_eq_none_iff : p.fullMatch? text = none ↔ ¬ p.Matches text := by
  constructor
  · rintro h ⟨t, hleads, hrest⟩
    have hsome : (p.fullMatch? text).isSome := by
      refine isSome_run_of_leads hleads ⟨rfl, rfl⟩ fun t' ht' => ?_
      rw [if_pos (List.isEmpty_iff.mpr (ht'.2.symm.trans hrest))]
      rfl
    rw [h] at hsome
    cases hsome
  · intro h
    cases hfound : p.fullMatch? text with
    | none => rfl
    | some found => exact absurd ⟨found, leads_of_fullMatch? hfound⟩ h

/-- **A captured span lies in the text.** -/
theorem span?_of_fullMatch? {index start finish : Nat} (h : p.fullMatch? text = some found)
    (hspan : found.span? index = some (start, finish)) : start ≤ finish ∧ finish ≤ text.length := by
  obtain ⟨hleads, hrest⟩ := leads_of_fullMatch? h
  have hlength := hleads.ahead.length_rest
  rw [hrest] at hlength
  obtain ⟨before, after, hcaptures, -⟩ := List.lookup_eq_some_iff.mp hspan
  have hmem : (index, start, finish) ∈ found.captures := by rw [hcaptures]; simp
  rcases hleads.ahead.captured _ hmem with hearlier | ⟨-, hle, hin⟩
  · exact absurd hearlier List.not_mem_nil
  · rw [List.length_nil, Nat.zero_add] at hlength
    exact ⟨hle, Nat.le_trans hin (Nat.le_of_eq hlength.symm)⟩

end Compiled

end AuditTrail.Pattern
