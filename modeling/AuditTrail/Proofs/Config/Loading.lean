import AuditTrail.Proofs.Config.Variables
import AuditTrail.Proofs.Outcome

/-!
# Proofs/Config/Loading — which configuration is loaded, and what the environment changes in it

    given path ──or──▸ path of the environment ──or──▸ first default place ──or──▸ built-in
                                       │
                  failure ◂────────────┴────────────▸ configuration ──environment──▸ configuration

One source is chosen (`chosen`).  If it fails, that is the failure, and no other source is asked; otherwise
five settings take what the environment sets, and all others stay as they are.  A default place about which
the operating system refuses to answer, with nothing at those before it, ends the loading instead
(`load_chosen`).
-/

namespace AuditTrail

open Overrides

/-! ## The default places -/

namespace Site

variable {site : Site} {places : List Path} {place path : Path} {fault : Fault}

/-- What is not at a path of a plain site is refused, and told with the path. -/
theorem look_plain {directory home : Path} {content : Path → Except SystemCause (Option (List UInt8))}
    {cause : SystemCause} (h : content (directory.under path) = .error cause) :
    (plain directory home content).look path = .error ⟨cause, [path.text]⟩ := by
  rw [plain]
  dsimp only
  rw [h]

/-- **What stands at a place**, with the home directory in place of its tilde. -/
def standing? (site : Site) (place : Path) : Option Path :=
  match site.expand place with
  | .ok path => if (site.look path).isOk then some path else none
  | .error _ => none

/-- **Why nothing is known about a place**: there is no home directory, or the operating system refuses to
look, for another reason than that nothing is there. -/
def refusal? (site : Site) (place : Path) : Option Fault :=
  match site.expand place with
  | .ok path =>
    match site.look path with
    | .error failure => if failure.cause.isAbsence then none else some (.system failure)
    | .ok _ => none
  | .error fault => some fault

section Look

variable {failure : SystemFailure} (hexpand : site.expand place = .ok path)
  (hlook : site.look path = .error failure)

include hexpand hlook

theorem standing?_of_error : site.standing? place = none := by
  rw [standing?, hexpand]
  dsimp only
  rw [hlook]
  rfl

theorem refusal?_of_error :
    site.refusal? place = if failure.cause.isAbsence then none else some (.system failure) := by
  rw [refusal?, hexpand]
  dsimp only
  rw [hlook]

end Look

/-- **The first of some places that is not empty is one about which nothing is known.** -/
def Refuses (site : Site) (places : List Path) (fault : Fault) : Prop :=
  ∃ before place after, places = before ++ place :: after ∧
    (∀ earlier ∈ before, site.standing? earlier = none ∧ site.refusal? earlier = none) ∧
    site.refusal? place = some fault

theorem refuses_cons_iff : site.Refuses (place :: places) fault ↔ site.refusal? place = some fault ∨
    (site.standing? place = none ∧ site.refusal? place = none) ∧ site.Refuses places fault := by
  unfold Refuses
  constructor
  · rintro ⟨_ | ⟨first, before⟩, later, after, hsplit, hbefore, hlater⟩
    · obtain ⟨rfl, rfl⟩ := List.cons.inj hsplit
      exact .inl hlater
    · obtain ⟨rfl, rfl⟩ := List.cons.inj hsplit
      obtain ⟨hfirst, hbefore⟩ := List.forall_mem_cons.mp hbefore
      exact .inr ⟨hfirst, before, later, after, rfl, hbefore, hlater⟩
  · rintro (hplace | ⟨hfirst, before, later, after, rfl, hbefore, hlater⟩)
    · exact ⟨[], place, places, rfl, nofun, hplace⟩
    · exact ⟨place :: before, later, after, rfl, List.forall_mem_cons.mpr ⟨hfirst, hbefore⟩, hlater⟩

/-- The places are looked at one after the other. -/
theorem firstSeen_cons : site.firstSeen (place :: places) =
    match site.refusal? place with
    | some fault => .error fault
    | none => (site.standing? place).elim (site.firstSeen places) fun path => .ok (some path) := by
  rw [firstSeen, refusal?, standing?]
  cases site.expand place with
  | error fault => rfl
  | ok path =>
    dsimp only [bind, Except.bind]
    rw [seen]
    cases site.look path with
    | ok standing => rfl
    | error failure =>
      dsimp only
      cases failure.cause.isAbsence <;> rfl

/-- A refusal ends the search. -/
theorem firstSeen_of_refuses (h : site.Refuses places fault) : site.firstSeen places = .error fault := by
  induction places with
  | nil =>
    obtain ⟨before, place, after, hsplit, -⟩ := h
    exact absurd hsplit.symm (List.append_ne_nil_of_right_ne_nil before (List.cons_ne_nil place after))
  | cons place places ih =>
    rw [firstSeen_cons]
    rcases refuses_cons_iff.mp h with hplace | ⟨⟨hempty, hknown⟩, hrest⟩
    · rw [hplace]
    · rw [hknown, hempty]
      exact ih hrest

/-- **Without a refusal**, the first place is found at which something stands. -/
theorem firstSeen_of_not_refuses (h : ∀ fault, ¬ site.Refuses places fault) :
    site.firstSeen places = .ok (places.findSome? site.standing?) := by
  induction places with
  | nil => rfl
  | cons place places ih =>
    have hknown : site.refusal? place = none := by
      cases hplace : site.refusal? place with
      | none => rfl
      | some fault => exact absurd (refuses_cons_iff.mpr (.inl hplace)) (h fault)
    rw [firstSeen_cons, hknown, List.findSome?_cons]
    cases hempty : site.standing? place with
    | some path => rfl
    | none => exact ih fun fault hrest => h fault (refuses_cons_iff.mpr (.inr ⟨⟨hempty, hknown⟩, hrest⟩))

end Site

/-! ## The source -/

variable {Mapping : Type} {intake : Intake Mapping} {environment : Environment} {overrides : Overrides}

/-- **The source of the configuration**: the given path; else the path of the environment; else the first
default place at which something stands; else none, and the configuration is the built-in one. -/
def chosen (site : Site) (environment : Environment) (given : Option Path) : Option Path :=
  (given.or ((value? environment "config_path").map Path.parse)).or
    (Site.defaultPaths.findSome? site.standing?)

/-- **Nothing is known about the source**: no path is set, and the default places refuse. -/
def Undecided (site : Site) (environment : Environment) (given : Option Path) (fault : Fault) : Prop :=
  given.or ((value? environment "config_path").map Path.parse) = none ∧ site.Refuses Site.defaultPaths fault

theorem Config.sourceOf_of_undecided {site : Site} {given : Option Path} {fault : Fault}
    (h : Undecided site environment given fault) :
    sourceOf site (given.or ((value? environment "config_path").map Path.parse)) = .error (.raised fault) := by
  rw [h.1, sourceOf, Site.firstSeen_of_refuses h.2]
  rfl

theorem Config.sourceOf_eq_chosen {site : Site} {given : Option Path}
    (h : ∀ fault, ¬ Undecided site environment given fault) :
    sourceOf site (given.or ((value? environment "config_path").map Path.parse))
      = .ok (chosen site environment given) := by
  unfold chosen
  cases hset : given.or ((value? environment "config_path").map Path.parse) with
  | some path => rfl
  | none =>
    rw [sourceOf, Site.firstSeen_of_not_refuses fun fault hrefuses => h fault ⟨hset, hrefuses⟩]
    rfl

/-! ## The settings -/

/-- **What a setting takes**: what its variable means, if that is set, and its own value otherwise. -/
def Takes {α : Type} (Means : String → α → Prop) (value : Option String) (own taken : α) : Prop :=
  match value with
  | some value => Means value taken
  | none => taken = own

section Rel

variable {α : Type} {value : Option String} {set : Option α}

theorem takes_getD {Means : String → α → Prop} (h : Option.Rel Means value set) (own : α) :
    Takes Means value own (set.getD own) := by
  cases h with
  | some h => exact h
  | none => rfl

theorem eq_map_of_rel {f : String → α} (h : Option.Rel (fun value a => a = f value) value set) :
    set = value.map f := by
  cases h with
  | some h => exact congrArg some h
  | none => rfl

end Rel

/-- **A configuration under an environment**: five settings take what is set there, and all others are the
configuration's own, those beside the format of the log line among them. -/
structure Overridden (environment : Environment) (own taken : Config) : Prop where
  filter : Takes (fun value choice => choice.name = value) (value? environment "filter")
    own.filter taken.filter
  timing : Takes (fun value timing => timing.name = value) (value? environment "log_timing_strategy")
    own.timing taken.timing
  redactUnknown : Takes IsWordFor (value? environment "redact_unknown_operation")
    own.redactUnknown taken.redactUnknown
  suppressPrepare : Takes IsWordFor (value? environment "suppress_prepare_statements")
    own.suppressPrepare taken.suppressPrepare
  format : Takes (fun value format => format = value) (value? environment "log_format")
    own.line.format taken.line.format
  line : taken.line = { own.line with format := taken.line.format }
  others : taken = { own with
    filter := taken.filter, timing := taken.timing, redactUnknown := taken.redactUnknown,
    suppressPrepare := taken.suppressPrepare, line := taken.line }

namespace Overrides.Reflect

variable (h : overrides.Reflect environment)

include h

/-- **Overrides that reflect an environment** put every configuration under it. -/
theorem overridden_apply (config : Config) : Overridden environment config (overrides.apply config) where
  filter := takes_getD h.filter _
  timing := takes_getD h.timing _
  redactUnknown := takes_getD h.redactUnknown _
  suppressPrepare := takes_getD h.suppressPrepare _
  format := takes_getD h.format _
  line := rfl
  others := rfl

end Overrides.Reflect

/-! ## Loading -/

/-- A valid environment is read as overrides that reflect it, and put on the configuration of the source. -/
theorem Config.exists_load_eq (hreads : intake.ReadsVariables) (hvalid : environment.Valid) (site : Site)
    (given : Option Path) : ∃ overrides : Overrides, overrides.Reflect environment ∧
      load intake site environment given
        = sourceOf site (given.or ((value? environment "config_path").map Path.parse)) >>= fun source =>
          (ofSource intake site source).map overrides.apply := by
  obtain ⟨overrides, hoverrides, hreflect⟩ := hreads environment hvalid
  refine ⟨overrides, hreflect, ?_⟩
  rw [load, hoverrides, ← eq_map_of_rel hreflect.path]
  rfl

/-- Where nothing is known about the source, nothing is loaded. -/
theorem Config.load_of_undecided (hreads : intake.ReadsVariables) (hvalid : environment.Valid) {site : Site}
    {given : Option Path} {fault : Fault} (h : Undecided site environment given fault) :
    load intake site environment given = .error (.raised fault) := by
  obtain ⟨overrides, -, hload⟩ := exists_load_eq hreads hvalid site given
  rw [hload, sourceOf_of_undecided h]
  rfl

/-- **Which configuration is loaded**, in a valid environment.  Unless nothing is known about the source,
it is the chosen one.  If that fails, so does the loading, with its failure; otherwise its configuration is
loaded as it is under the environment.  If nothing is known about the source, the loading fails for that. -/
theorem Config.load_chosen (hreads : intake.ReadsVariables) (hvalid : environment.Valid) (site : Site)
    (given : Option Path) :
    ((∀ fault, ¬ Undecided site environment given fault) →
      (∀ failure, ofSource intake site (chosen site environment given) = .error failure →
        load intake site environment given = .error failure) ∧
      ∀ config, ofSource intake site (chosen site environment given) = .ok config →
        ∃ taken, load intake site environment given = .ok taken ∧ Overridden environment config taken) ∧
    ∀ fault, Undecided site environment given fault →
      load intake site environment given = .error (.raised fault) := by
  refine ⟨fun hknown => ?_, fun fault hundecided => load_of_undecided hreads hvalid hundecided⟩
  obtain ⟨overrides, hreflect, hload⟩ := exists_load_eq hreads hvalid site given
  rw [hload, sourceOf_eq_chosen hknown]
  dsimp only [bind, Except.bind]
  refine ⟨fun failure hfailure => ?_, fun config hconfig =>
    ⟨overrides.apply config, ?_, hreflect.overridden_apply config⟩⟩
  · rw [hfailure]
    rfl
  · rw [hconfig]
    rfl

/-- The default places, as they are read. -/
theorem defaultPaths_eq : Site.defaultPaths = [⟨.relative, ["dbaudit.yaml"]⟩,
    ⟨.relative, ["config", "dbaudit.yaml"]⟩, ⟨.relative, ["~", ".config", "dbaudit", "audit.yaml"]⟩] := by
  decide +kernel

/-! ### A home directory that is too far -/

/-- The home directory has a longer name than there can be. -/
def farHome : Path := ⟨.slash, [String.ofList (List.replicate 256 'a')]⟩

/-- Nothing is anywhere, and no name may be too long. -/
def farContent (path : Path) : Except SystemCause (Option (List UInt8)) :=
  if path.parts.all (·.length ≤ 255) then .error .notFound else .error .nameTooLong

/-- An empty site far from home. -/
def farFromHome : Site := .plain (Path.parse "/srv") farHome farContent

/-- The last of the default places, far from home. -/
def farPlace : Path := { farHome with parts := farHome.parts ++ [".config", "dbaudit", "audit.yaml"] }

theorem expand_farFromHome :
    farFromHome.expand ⟨.relative, ["~", ".config", "dbaudit", "audit.yaml"]⟩ = .ok farPlace := rfl

theorem look_farFromHome : farFromHome.look farPlace = .error ⟨.nameTooLong, [farPlace.text]⟩ := by
  have hlength : (String.ofList (List.replicate 256 'a')).length = 256 := by
    rw [String.length_ofList, List.length_replicate]
  have hlong : ¬ ((Path.parse "/srv").under farPlace).parts.all (·.length ≤ 255) = true := by
    rw [Path.under, if_neg nofun]
    intro hall
    have hfirst := of_decide_eq_true (List.all_eq_true.mp hall _ List.mem_cons_self)
    rw [hlength] at hfirst
    omega
  have hcontent : farContent ((Path.parse "/srv").under farPlace) = .error .nameTooLong := if_neg hlong
  rw [farFromHome]
  exact Site.look_plain hcontent

/-- The first two of the default places are empty. -/
theorem empty_farFromHome :
    ∀ place ∈ [⟨.relative, ["dbaudit.yaml"]⟩, ⟨.relative, ["config", "dbaudit.yaml"]⟩],
      farFromHome.standing? place = none ∧ farFromHome.refusal? place = none :=
  List.forall_mem_cons.mpr ⟨⟨rfl, rfl⟩, List.forall_mem_singleton.mpr ⟨rfl, rfl⟩⟩

/-- **Nothing stands at any default place**, no path is set, and still the built-in configuration is not what
is loaded. -/
theorem farFromHome_refused : Environment.Valid [] ∧ chosen farFromHome [] none = none ∧
    Config.ofSource .builtIn farFromHome none = .ok Config.default ∧
    Config.load .builtIn farFromHome [] none
      = .error (.raised (.system ⟨.nameTooLong, [farPlace.text]⟩)) := by
  have hvalid : Environment.Valid [] := ⟨nofun, nofun, nofun, nofun⟩
  have hlast := Site.standing?_of_error expand_farFromHome look_farFromHome
  have hrefusal := Site.refusal?_of_error expand_farFromHome look_farFromHome
  have hrefuses : farFromHome.Refuses Site.defaultPaths (.system ⟨.nameTooLong, [farPlace.text]⟩) := by
    rw [defaultPaths_eq]
    exact ⟨[_, _], _, [], rfl, empty_farFromHome, hrefusal⟩
  have hempty : Site.defaultPaths.findSome? farFromHome.standing? = none := by
    rw [List.findSome?_eq_none_iff, defaultPaths_eq]
    intro place hplace
    rcases List.mem_append.mp (show place ∈ [_, _] ++ [_] from hplace) with hnear | hplace
    · exact (empty_farFromHome place hnear).1
    · obtain rfl := List.mem_singleton.mp hplace
      exact hlast
  refine ⟨hvalid, ?_, rfl, Config.load_of_undecided Intake.builtIn_readsVariables hvalid ⟨rfl, hrefuses⟩⟩
  rw [chosen, hempty]
  rfl

/-! ### A second default place -/

/-- A working directory with a configuration at the second default place. -/
def secondPlace : Site :=
  .plain (Path.parse "/srv") (Path.parse "/root") fun path =>
    if path = Path.parse "/srv/config/dbaudit.yaml" then
      .ok (some "whitelist: [bob]\nlogger: \x7bformat: a, anchor: '%s'\x7d\n".toUTF8.toList)
    else .error .notFound

/-- An environment that sets a truth value to false, and the format to nothing. -/
def falseAndEmpty : Environment :=
  [("DBAUDIT_FILTER", "bogus"), ("dbaudit_filter", "role"), ("DBAUDIT_REDACT_UNKNOWN_OPERATION", "No"),
    ("DBAUDIT_LOG_FORMAT", "")]

theorem value?_falseAndEmpty :
    value? falseAndEmpty "filter" = some "role" ∧ value? falseAndEmpty "log_timing_strategy" = none ∧
    value? falseAndEmpty "redact_unknown_operation" = some "No" ∧
    value? falseAndEmpty "suppress_prepare_statements" = none ∧
    value? falseAndEmpty "log_format" = some "" ∧ value? falseAndEmpty "config_path" = none := by
  decide +kernel

theorem valid_falseAndEmpty : falseAndEmpty.Valid := by
  obtain ⟨hfilter, htiming, hredact, hsuppress, -, -⟩ := value?_falseAndEmpty
  refine ⟨fun value hvalue => ?_, fun value hvalue => ?_, fun value hvalue => ?_, fun value hvalue => ?_⟩
  · exact ⟨.role, Option.some.inj (hfilter.symm.trans hvalue)⟩
  · cases htiming.symm.trans hvalue
  · obtain rfl := Option.some.inj (hredact.symm.trans hvalue)
    exact ⟨false, by decide +kernel⟩
  · cases hsuppress.symm.trans hvalue

/-- The file there exempts a user, and sets the anchor beside the format. -/
theorem ofSource_secondPlace : ∃ config,
    Config.ofSource .builtIn secondPlace (some (Path.parse "./config/dbaudit.yaml")) = .ok config ∧
      config.whitelist = ["bob"] ∧ config.redactUnknown = true ∧
      config.line = ⟨"a", some "%s", none, none, none⟩ := by
  have hread : ((Config.ofSource .builtIn secondPlace (some (Path.parse "./config/dbaudit.yaml"))).toOption.map
      fun config => decide (config.whitelist = ["bob"] ∧ config.redactUnknown = true ∧
        config.line = ⟨"a", some "%s", none, none, none⟩)) = some true := by
    decide +kernel
  obtain ⟨config, hconfig, hfields⟩ := Option.map_eq_some_iff.mp hread
  exact ⟨config, toOption_eq_some_iff.mp hconfig, of_decide_eq_true hfields⟩

/-- Nothing is refused before the second place, which is the source. -/
theorem chosen_secondPlace : chosen secondPlace falseAndEmpty none = some (Path.parse "./config/dbaudit.yaml") ∧
    ∀ fault, ¬ Undecided secondPlace falseAndEmpty none fault := by
  have hseen : (secondPlace.firstSeen Site.defaultPaths).toOption
      = some (some (Path.parse "./config/dbaudit.yaml")) := by
    decide +kernel
  refine ⟨by decide +kernel, fun fault hundecided => ?_⟩
  cases (Site.firstSeen_of_refuses hundecided.2).symm.trans (toOption_eq_some_iff.mp hseen)

/-- The second default place is the source, and keeps its anchor under the empty format; a given path where
nothing stands is a failure all the same; and far from home nothing is known. -/
theorem secondPlace_loaded : Intake.builtIn.ReadsVariables ∧ falseAndEmpty.Valid ∧
    chosen secondPlace falseAndEmpty none = some (Path.parse "./config/dbaudit.yaml") ∧
    (∃ taken, Config.load .builtIn secondPlace falseAndEmpty none = .ok taken ∧ taken.filter = .role ∧
      taken.whitelist = ["bob"] ∧ taken.redactUnknown = false ∧
      taken.line = ⟨"", some "%s", none, none, none⟩) ∧
    Config.load .builtIn secondPlace falseAndEmpty (some (Path.parse "gone.yaml"))
      = .error (.missing (Path.parse "/srv/gone.yaml")) := by
  obtain ⟨hfilter, -, hredact, -, hformat, hpath⟩ := value?_falseAndEmpty
  have hfile (given : Option Path) :=
    Config.load_chosen Intake.builtIn_readsVariables valid_falseAndEmpty secondPlace given
  obtain ⟨hchosen, hknown⟩ := chosen_secondPlace
  obtain ⟨config, hconfig, hwhitelist, -, hline⟩ := ofSource_secondPlace
  obtain ⟨taken, hload, htaken⟩ := ((hfile none).1 hknown).2 config (hchosen ▸ hconfig)
  refine ⟨Intake.builtIn_readsVariables, valid_falseAndEmpty, hchosen, ⟨taken, hload, ?_, ?_, ?_, ?_⟩, ?_⟩
  · have hname := htaken.filter
    rw [hfilter] at hname
    have hrole : FilterChoice.ofName? "role" = some .role := by decide
    exact Option.some.inj ((ofName?_filter_iff.mpr hname).symm.trans hrole)
  · rw [htaken.others]
    exact hwhitelist
  · have hword := htaken.redactUnknown
    rw [hredact] at hword
    cases hb : taken.redactUnknown with
    | false => rfl
    | true =>
      rw [hb] at hword
      have hno : ¬ IsWordFor "No" true := by decide +kernel
      exact absurd hword hno
  · have hempty := htaken.format
    rw [hformat] at hempty
    rw [htaken.line, hline, hempty]
  · exact ((hfile (some (Path.parse "gone.yaml"))).1 nofun).1 _ rfl

end AuditTrail
