import Mathlib.Data.Bool.AllAny
import AuditTrail.Proofs.Outcome
import AuditTrail.Proofs.Text.Letters
import AuditTrail.Proofs.Text.Trimmed
import AuditTrail.Whitelist.Request

/-!
# Proofs/Whitelist/OptionNames — which options are requests

    option ──strip, join──▸ joinedOption option ──lower──▸ optionStart action ++ rest
                                                                            rest ──upper──▸ scope.name

The start of an option is compared in lower case and its scope in upper case, and the text goes through
the one to get to the other.  So an option is a request when it has the letters of the names in either case,
or letters beyond ASCII whose case they are: `K` for a k, and in the scope also `ſ` for an s and `ı` for an
i (`parseOption_eq_ok_iff_readsAs`).
-/

namespace AuditTrail

open AuditTrail.Text

/-! ## Names of scopes -/

namespace Scope

variable {scope : Scope} {text name : String}

/-- The name of a scope is that of no other. -/
theorem ofName?_name (scope : Scope) : ofName? scope.name = some scope := by
  cases scope with
  | all => rfl
  | only permission => cases permission <;> decide

theorem ofName?_eq_some_iff : ofName? name = some scope ↔ name = scope.name := by
  constructor
  · intro h
    rw [ofName?] at h
    split at h
    case isTrue hall =>
      obtain rfl := Option.some.inj h
      exact hall
    case isFalse =>
      obtain ⟨permission, hfound, rfl⟩ := Option.map_eq_some_iff.mp h
      have hname := List.find?_some hfound
      exact (beq_iff_eq.mp hname).symm
  · rintro rfl
    exact ofName?_name scope

theorem parse_eq_ok_iff : parse text = .ok scope ↔ upper (strip text.toList) = scope.name.toList := by
  have hkey : ofName? (String.ofList (upper (strip text.toList))) = some scope ↔
      upper (strip text.toList) = scope.name.toList := by
    rw [ofName?_eq_some_iff, ← String.toList_inj, String.toList_ofList]
  rw [← hkey, parse]
  cases ofName? (String.ofList (upper (strip text.toList))) with
  | none => exact iff_of_false nofun nofun
  | some found => exact ⟨fun h => congrArg some (Except.ok.inj h), fun h => congrArg Except.ok (Option.some.inj h)⟩

/-- The letters of a name are capitals. -/
theorem forall_mem_name (scope : Scope) : ∀ x ∈ scope.name.toList, 65 ≤ x.toNat ∧ x.toNat ≤ 90 := by
  -- the letters are tried one by one, and not all characters there are
  refine List.all_iff_forall_prop.mp ?_
  cases scope with
  | all => decide
  | only permission => cases permission <;> decide

/-- No character with several capitals can have them in the name of a scope. -/
theorem not_expansion_infix (scope : Scope) :
    ∀ entry ∈ upperExpansions, ¬ entry.2.map Char.ofNat <:+: scope.name.toList := by
  cases scope with
  | all => decide +kernel
  | only permission => cases permission <;> decide +kernel

end Scope

namespace Action

variable {option : String} {action : Action} {scope : Scope} {cs rest : List Char} {c x : Char}

/-! ## What is read -/

/-- The option between blanks, with one underscore for every run of blanks. -/
def joinedOption (option : String) : List Char := joinBlanks '_' (strip option.toList)

/-- **The option has the names** of the action and the scope, with ASCII letters in either case. -/
def IsNamed (option : String) (action : Action) (scope : Scope) : Prop :=
  (joinedOption option).map Char.toLower
    = (optionStart action ++ scope.name.toList).map Char.toLower

instance (option : String) (action : Action) (scope : Scope) : Decidable (IsNamed option action scope) :=
  inferInstanceAs (Decidable (_ = _))

/-- The letters beyond ASCII that an ASCII letter is the case of. -/
def strays : List Char := [kelvinSign, dotlessI, longS]

/-- The letters beyond ASCII that stand for one in the start of an option. -/
def startStrays : List (Char × Char) := [(kelvinSign, 'k')]

/-- The letters beyond ASCII that stand for one in the scope. -/
def scopeStrays : List (Char × Char) := [(kelvinSign, 'K'), (dotlessI, 'I'), (longS, 'S')]

/-- The character is the letter in either case, or it is listed for the letter. -/
def StandsFor (listed : List (Char × Char)) (c x : Char) : Prop :=
  c.toLower = x.toLower ∨ (c, x) ∈ listed

/-- **What an option is read as**: each character of its start and of its scope stands for the letter there. -/
def ReadsAs (option : String) (action : Action) (scope : Scope) : Prop :=
  ∃ start rest, joinedOption option = start ++ rest ∧
    List.Forall₂ (StandsFor startStrays) start (optionStart action) ∧
    List.Forall₂ (StandsFor scopeStrays) rest scope.name.toList

/-! ## The two parts of an option -/

/-- **An option of either action** starts as the options of that action do. -/
theorem ofStart?_eq_some_iff : ofStart? cs = some (action, rest) ↔ cs = optionStart action ++ rest := by
  constructor
  · intro h
    have hdrop : ∀ action', (optionStart action').isPrefixOf cs = true →
        cs = optionStart action' ++ cs.drop (optionStart action').length := fun action' hstart =>
      List.prefix_iff_eq_append.mp (List.isPrefixOf_iff_prefix.mp hstart) |>.symm
    rw [ofStart?] at h
    split at h
    case isTrue hgrant =>
      obtain ⟨rfl, rfl⟩ := Prod.mk.inj (Option.some.inj h)
      exact hdrop .grant hgrant
    case isFalse =>
      split at h
      case isTrue hrevoke =>
        obtain ⟨rfl, rfl⟩ := Prod.mk.inj (Option.some.inj h)
        exact hdrop .revoke hrevoke
      case isFalse => exact absurd h nofun
  · rintro rfl
    have hstart : ∀ action', (optionStart action').isPrefixOf (optionStart action' ++ rest) = true :=
      fun action' => List.isPrefixOf_iff_prefix.mpr (List.prefix_append _ rest)
    cases action with
    | grant => rw [ofStart?, if_pos (hstart .grant), List.drop_left]
    | revoke =>
      have hgrant : ¬ (optionStart .grant).isPrefixOf (optionStart .revoke ++ rest) = true := nofun
      rw [ofStart?, if_neg hgrant, if_pos (hstart .revoke), List.drop_left]

/-- What is left in lower case of a joined option has no blank. -/
theorem isBlank_of_mem_normalOption : ∀ c ∈ normalOption option, isBlank c = false := by
  intro c hc
  obtain ⟨d, hd, hcd | ⟨-, rfl⟩⟩ := mem_lowerFrom hc
  case inr => decide
  by_cases hdotted : d = dottedI
  · rw [hdotted, lowerOf_dottedI] at hcd
    have hplain : ∀ c ∈ ['i', '\u0307'], isBlank c = false := List.all_iff_forall_prop.mp (by decide)
    exact hplain c hcd
  · rw [lowerOf_eq_singleton hdotted] at hcd
    rw [List.mem_singleton.mp hcd, isBlank_lowerChar]
    exact isBlank_of_mem_joinBlanksFrom (by decide) false _ d hd

/-- **Reading an option** through its lower case and the upper case of that. -/
theorem parseOption_eq_ok_iff : parseOption option = .ok (action, scope) ↔
    ∃ rest, normalOption option = optionStart action ++ rest ∧ upper rest = scope.name.toList := by
  have hstrip : ∀ rest, normalOption option = optionStart action ++ rest → strip rest = rest := by
    intro rest h
    have hblank : ∀ c ∈ rest, isBlank c = false := fun c hc =>
      isBlank_of_mem_normalOption c (h ▸ List.mem_append_right _ hc)
    exact strip_eq_self_iff.mpr
      ⟨fun c hc => hblank c (List.mem_of_mem_head? hc), fun c hc => hblank c (List.mem_of_mem_getLast? hc)⟩
  rw [parseOption]
  constructor
  · intro h
    cases hstart : ofStart? (normalOption option) with
    | none =>
      rw [hstart] at h
      cases h
    | some found =>
      obtain ⟨action', rest⟩ := found
      rw [hstart] at h
      obtain ⟨scope', hscope, heq⟩ := map_eq_ok_iff.mp h
      obtain ⟨rfl, rfl⟩ := Prod.mk.inj heq
      have hsplit := ofStart?_eq_some_iff.mp hstart
      rw [Scope.parse_eq_ok_iff, String.toList_ofList, hstrip rest hsplit] at hscope
      exact ⟨rest, hsplit, hscope⟩
  · rintro ⟨rest, hsplit, hscope⟩
    rw [ofStart?_eq_some_iff.mpr hsplit]
    refine map_eq_ok_iff.mpr ⟨scope, ?_, rfl⟩
    rw [Scope.parse_eq_ok_iff, String.toList_ofList, hstrip rest hsplit]
    exact hscope

/-! ## Letter by letter -/

/-- The start of an option is in lower case and holds ASCII letters and underscores only. -/
theorem forall_mem_optionStart (action : Action) :
    ∀ x ∈ optionStart action, x.toNat ≠ 0 ∧ x.toNat < 128 ∧ x.toLower = x :=
  List.all_iff_forall_prop.mp (by cases action <;> decide)

theorem forall_mem_ascii (action : Action) (scope : Scope) :
    (∀ x ∈ optionStart action, x.toNat < 128) ∧ ∀ x ∈ scope.name.toList, x.toNat < 128 :=
  ⟨fun x hx => (forall_mem_optionStart action x hx).2.1,
    fun x hx => Nat.lt_of_le_of_lt (scope.forall_mem_name x hx).2 (by decide)⟩

/-- **A text has the start in lower case** when its characters stand for the letters there. -/
theorem map_lowerChar_eq_iff (hdotted : dottedI ∉ cs) :
    cs.map lowerChar = optionStart action ↔
      List.Forall₂ (StandsFor startStrays) cs (optionStart action) := by
  rw [← List.forall₂_eq_eq_eq, List.forall₂_map_left_iff]
  refine forall₂_congr_of_mem fun c hc x hx => ?_
  obtain ⟨hpos, hascii, hlower⟩ := forall_mem_optionStart action x hx
  have hsingle := lowerOf_eq_singleton fun heq : c = dottedI => hdotted (heq ▸ hc)
  rw [← List.singleton_inj, ← hsingle, lowerOf_eq_iff hpos hascii, StandsFor, startStrays,
    List.mem_singleton, Prod.mk.injEq, hlower]

/-- **A text has the scope's name in the upper case of its lower case** when its characters stand for the
letters of the name. -/
theorem upper_map_lowerChar_eq_iff (hdotted : dottedI ∉ cs) :
    upper (cs.map lowerChar) = scope.name.toList ↔
      List.Forall₂ (StandsFor scopeStrays) cs scope.name.toList := by
  have hone : cs.flatMap (fun c => upperOf (lowerChar c)) = scope.name.toList →
      ∀ c ∈ cs, ∃ y, upperOf (lowerChar c) = [y] := by
    intro h c hc
    rcases upperOf_cases (lowerChar c) with hone | ⟨entry, hentry, himage⟩
    · exact hone
    · refine absurd ?_ (scope.not_expansion_infix entry hentry)
      rw [← himage, ← h]
      exact List.infix_flatMap_of_mem hc fun c => upperOf (lowerChar c)
  rw [upper, List.flatMap_map, flatMap_eq_iff_forall₂ hone]
  refine forall₂_congr_of_mem fun c hc x hx => ?_
  rw [upperOf_lowerChar_eq_iff (fun heq => hdotted (heq ▸ hc)) (scope.forall_mem_name x hx), StandsFor,
    scopeStrays]
  simp only [List.mem_cons, Prod.mk.injEq, List.not_mem_nil, or_false]

/-- What has no capital of ASCII is in no option. -/
theorem not_mem_normalOption (hsplit : normalOption option = optionStart action ++ rest)
    (hscope : upper rest = scope.name.toList) {d u : Char} (hbeyond : ¬ d.toNat < 128)
    (hupper : u ∈ upperOf d) (hu : ¬ u.toNat < 128) : d ∉ normalOption option := by
  intro hmem
  rw [hsplit, List.mem_append] at hmem
  rcases hmem with hstart | hrest
  · exact hbeyond (forall_mem_optionStart action _ hstart).2.1
  · have hmem : u ∈ scope.name.toList := hscope ▸ List.mem_flatMap.mpr ⟨_, hrest, hupper⟩
    exact hu ((forall_mem_ascii action scope).2 _ hmem)

/-- The dot that the lower case of the dotted capital i leaves has no place in an option. -/
theorem dottedI_not_mem_joinedOption (hsplit : normalOption option = optionStart action ++ rest)
    (hscope : upper rest = scope.name.toList) : dottedI ∉ joinedOption option := by
  intro hmem
  have hdot : '\u0307' ∉ normalOption option :=
    not_mem_normalOption (u := '\u0307') hsplit hscope (by decide) (by decide +kernel) (by decide)
  rcases exists_mem_lowerFrom [] hmem with hall | ⟨hsigma, -⟩
  · exact hdot (hall _ (by rw [lowerOf_dottedI]; decide))
  · exact absurd hsigma (by decide)

/-- A sigma has no place in an option either. -/
theorem sigma_not_mem_joinedOption (hsplit : normalOption option = optionStart action ++ rest)
    (hscope : upper rest = scope.name.toList) : 'Σ' ∉ joinedOption option := by
  intro hmem
  have hsmall : 'σ' ∉ normalOption option :=
    not_mem_normalOption (u := 'Σ') hsplit hscope (by decide) (by decide +kernel) (by decide)
  have hfinal : 'ς' ∉ normalOption option :=
    not_mem_normalOption (u := 'Σ') hsplit hscope (by decide) (by decide +kernel) (by decide)
  rcases exists_mem_lowerFrom [] hmem with hall | ⟨-, hmem⟩
  · exact hsmall (hall _ (by decide +kernel))
  · exact hfinal hmem

/-- A character from beyond ASCII that is not listed stands for no letter. -/
theorem not_mem_of_standsFor {listed : List (Char × Char)} {word : List Char} (hbeyond : ¬ c.toNat < 128)
    (hlisted : ∀ pair ∈ listed, pair.1 ≠ c) (hword : ∀ x ∈ word, x.toNat < 128)
    (h : List.Forall₂ (StandsFor listed) cs word) : c ∉ cs := by
  intro hmem
  obtain ⟨x, hx, hlower | hpair⟩ := exists_mem_of_forall₂ h c hmem
  · have hascii := (toNat_toLower_lt_iff x).mpr (hword x hx)
    rw [← hlower, toNat_toLower_lt_iff] at hascii
    exact hbeyond hascii
  · exact hlisted _ hpair rfl

/-- The names are told apart in the option. -/
theorem isNamed_iff : IsNamed option action scope ↔ ∃ start rest, joinedOption option = start ++ rest ∧
    List.Forall₂ (fun c x => c.toLower = x.toLower) start (optionStart action) ∧
    List.Forall₂ (fun c x => c.toLower = x.toLower) rest scope.name.toList := by
  rw [IsNamed, List.map_append, List.map_eq_append_iff]
  refine exists_congr fun start => exists_congr fun rest => and_congr_right fun _ => ?_
  rw [map_eq_map_iff_forall₂, map_eq_map_iff_forall₂]

/-- A letter beyond ASCII has a place in a joined option where it has one in the option. -/
theorem mem_joinedOption_iff (hc : c ∈ strays) : c ∈ joinedOption option ↔ c ∈ option.toList := by
  have hplain : ∀ c ∈ strays, isBlank c = false ∧ c ≠ '_' := List.all_iff_forall_prop.mp (by decide)
  obtain ⟨hblank, hmark⟩ := hplain c hc
  rw [joinedOption, joinBlanks, mem_joinBlanksFrom_iff hblank hmark, mem_strip_iff hblank]

/-- What stands for a letter is the letter in either case, where no letter comes from beyond ASCII. -/
theorem standsFor_iff {listed : List (Char × Char)} (hlisted : ∀ pair ∈ listed, pair.1 ∈ strays)
    (hc : c ∉ strays) : StandsFor listed c x ↔ c.toLower = x.toLower :=
  or_iff_left fun hpair => hc (hlisted _ hpair)

/-- **An option with the names of its parts** is read so and has no letter from beyond ASCII. -/
theorem isNamed_iff_readsAs :
    IsNamed option action scope ↔ ReadsAs option action scope ∧ ∀ c ∈ strays, c ∉ option.toList := by
  constructor
  · intro h
    obtain ⟨start, rest, hsplit, hstart, hrest⟩ := isNamed_iff.mp h
    refine ⟨⟨start, rest, hsplit, hstart.imp fun _ _ => .inl, hrest.imp fun _ _ => .inl⟩, ?_⟩
    intro c hc hmem
    have hbeyond : ∀ c ∈ strays, ¬ c.toNat < 128 := List.all_iff_forall_prop.mp (by decide)
    refine hbeyond c hc ((toNat_toLower_lt_iff c).mp ?_)
    obtain ⟨x, hx, heq⟩ := List.mem_map.mp (h ▸ List.mem_map_of_mem ((mem_joinedOption_iff hc).mpr hmem))
    rw [← heq, toNat_toLower_lt_iff]
    rcases List.mem_append.mp hx with hstart | hname
    · exact (forall_mem_ascii action scope).1 x hstart
    · exact (forall_mem_ascii action scope).2 x hname
  · rintro ⟨⟨start, rest, hsplit, hstart, hrest⟩, hstrays⟩
    have hnone : ∀ c ∈ start ++ rest, c ∉ strays := fun c hc hstray =>
      hstrays c hstray ((mem_joinedOption_iff hstray).mp (hsplit ▸ hc))
    rw [List.forall_mem_append] at hnone
    refine isNamed_iff.mpr ⟨start, rest, hsplit, ?_, ?_⟩
    · exact (forall₂_congr_of_mem fun c hc _ _ => standsFor_iff (by decide) (hnone.1 c hc)).mp hstart
    · exact (forall₂_congr_of_mem fun c hc _ _ => standsFor_iff (by decide) (hnone.2 c hc)).mp hrest

/-- What is read as an action and a scope has no character from beyond ASCII but those that are listed. -/
theorem ReadsAs.not_mem (h : ReadsAs option action scope) (hbeyond : ¬ c.toNat < 128) (hc : c ∉ strays) :
    c ∉ joinedOption option := by
  obtain ⟨start, rest, hjoined, hstart, hrest⟩ := h
  have hstray : ∀ pair ∈ startStrays ++ scopeStrays, pair.1 ∈ strays := by decide
  rw [hjoined, List.mem_append, not_or]
  refine ⟨not_mem_of_standsFor hbeyond (fun pair hpair heq => hc ?_) (forall_mem_ascii action scope).1 hstart,
    not_mem_of_standsFor hbeyond (fun pair hpair heq => hc ?_) (forall_mem_ascii action scope).2 hrest⟩
  · exact heq ▸ hstray pair (List.mem_append_left _ hpair)
  · exact heq ▸ hstray pair (List.mem_append_right _ hpair)

/-- An option is read as what its characters stand for. -/
theorem parseOption_eq_ok_iff_readsAs :
    parseOption option = .ok (action, scope) ↔ ReadsAs option action scope := by
  rw [parseOption_eq_ok_iff]
  constructor
  · rintro ⟨lowered, hsplit, hscope⟩
    have hdotted := dottedI_not_mem_joinedOption hsplit hscope
    have hmap : (joinedOption option).map lowerChar = optionStart action ++ lowered :=
      (lower_eq_map hdotted (sigma_not_mem_joinedOption hsplit hscope)).symm.trans hsplit
    obtain ⟨start, rest, hjoined, hstart, rfl⟩ := List.map_eq_append_iff.mp hmap
    rw [hjoined, List.mem_append, not_or] at hdotted
    exact ⟨start, rest, hjoined, (map_lowerChar_eq_iff hdotted.1).mp hstart,
      (upper_map_lowerChar_eq_iff hdotted.2).mp hscope⟩
  · intro h
    have hdotted : dottedI ∉ joinedOption option := h.not_mem (by decide) (by decide)
    have hlower := lower_eq_map hdotted (h.not_mem (c := 'Σ') (by decide) (by decide))
    obtain ⟨start, rest, hjoined, hstart, hrest⟩ := h
    rw [hjoined, List.mem_append, not_or] at hdotted
    refine ⟨rest.map lowerChar, ?_, (upper_map_lowerChar_eq_iff hdotted.2).mpr hrest⟩
    rw [← (map_lowerChar_eq_iff hdotted.1).mpr hstart, ← List.map_append, ← hjoined]
    exact hlower

/-- **Which options are requests.**  An option is read as an action and a scope exactly when its characters
stand for the letters of these, which says that it has their names with ASCII letters in either case, or that
it has letters from beyond ASCII in places where these are read as a k, an i or an s.  All other options are
refused. -/
theorem parseOption_settled (option : String) (action : Action) (scope : Scope) :
    (parseOption option = .ok (action, scope) ↔ ReadsAs option action scope) ∧
    (IsNamed option action scope ↔
      parseOption option = .ok (action, scope) ∧ ∀ c ∈ strays, c ∉ option.toList) ∧
    ((∃ error, parseOption option = .error error) ↔ ∀ action scope, ¬ ReadsAs option action scope) := by
  refine ⟨parseOption_eq_ok_iff_readsAs, ?_, ?_⟩
  · rw [parseOption_eq_ok_iff_readsAs, isNamed_iff_readsAs]
  · simp only [← parseOption_eq_ok_iff_readsAs]
    cases parseOption option with
    | error error => exact iff_of_true ⟨error, rfl⟩ fun _ _ => nofun
    | ok found => exact iff_of_false nofun fun h => h found.1 found.2 rfl

example : IsNamed " REVOKE AUDIT\tWHITELIST  FOR select " .revoke (.only .select) := by decide +kernel

/-- **A letter from beyond ASCII is taken for the letter it has as its case**: an option with a long s, one
with a dotless i and one with the Kelvin sign are read, though they do not have the names of what they are
read as. -/
theorem strayOption_read :
    ¬ (∀ (option : String) (action : Action) (scope : Scope),
      parseOption option = .ok (action, scope) ↔ IsNamed option action scope) ∧
    parseOption "grant_audit_whitelist_for_ſelect" = .ok (.grant, .only .select) ∧
    parseOption "grant_audit_whitelist_for_modıfy" = .ok (.grant, .only .modify) ∧
    parseOption "revo\u212Ae_audit_whitelist_for_all" = .ok (.revoke, .all) := by
  have hread : parseOption "grant_audit_whitelist_for_ſelect" = .ok (.grant, .only .select) := by
    decide +kernel
  refine ⟨fun h => ?_, hread, by decide +kernel, by decide +kernel⟩
  exact absurd ((h _ _ _).mp hread) (by decide +kernel)

end Action

end AuditTrail
