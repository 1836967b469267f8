import AuditTrail.Config.BuiltIn
import Mathlib.Data.List.Basic

/-!
# Proofs/Config/Variables — what the environment sets

A valid environment is read as it is set (`Intake.ReadsVariables`): each override is there when its variable
is, and is what the value of the variable means.  The checks of the program do so (`builtIn_readsVariables`).
-/

namespace AuditTrail

open AuditTrail.Schema AuditTrail.Text

/-! ## Checks side by side -/

namespace Checked

variable {α β : Type} {c : Checked α} {b : β}

theorem map_eq_valid_iff {f : α → β} : f <$> c = .valid b ↔ ∃ a, c = .valid a ∧ f a = b := by
  cases c <;> simp [Functor.map]

theorem seq_eq_valid_iff {f : Checked (α → β)} :
    f <*> c = .valid b ↔ ∃ g a, f = .valid g ∧ c = .valid a ∧ g a = b := by
  cases f <;> cases c <;> simp [Seq.seq]

theorem under_eq_valid_iff {key : String} {a : α} : c.under key = .valid a ↔ c = .valid a := by
  cases c <;> simp [under]

end Checked

namespace Overrides

variable {environment : Environment} {value : String}

/-! ## What the variables mean -/

/-- The text is a word for the truth value, in whatever case. -/
def IsWordFor (text : String) (b : Bool) : Prop :=
  String.ofList (text.toList.map Char.toLower) ∈ if b then trueWords else falseWords

instance (text : String) (b : Bool) : Decidable (IsWordFor text b) := inferInstanceAs (Decidable (_ ∈ _))

theorem boolean_text_iff {b : Bool} : boolean (.text value) = .valid b ↔ IsWordFor value b := by
  have hdisjoint : ∀ word ∈ falseWords, word ∉ trueWords := by decide
  unfold boolean IsWordFor
  dsimp only
  generalize String.ofList (value.toList.map Char.toLower) = word
  by_cases htrue : word ∈ trueWords <;> by_cases hfalse : word ∈ falseWords <;> cases b <;>
    simp_all [Checked.defect]

theorem oneOf_text_iff {α : Type} {ofName? : String → Option α} {a : α} :
    oneOf ofName? (.text value) = .valid a ↔ ofName? value = some a := by
  unfold oneOf
  dsimp only
  cases ofName? value <;> simp [Checked.defect]

theorem ofName?_filter_iff {choice : FilterChoice} :
    FilterChoice.ofName? value = some choice ↔ choice.name = value := by
  constructor
  · intro h
    have hname := List.find?_some h
    exact beq_iff_eq.mp hname
  · rintro rfl
    cases choice <;> rfl

theorem ofName?_timing_iff {timing : Timing} : Timing.ofName? value = some timing ↔ timing.name = value := by
  constructor
  · intro h
    have hname := List.find?_some h
    exact beq_iff_eq.mp hname
  · rintro rfl
    cases timing <;> rfl

end Overrides

open Overrides

/-! ## Valid environments -/

/-- **The environment is valid**: what it sets can be set.  Any text is a path, and any text a format. -/
structure Environment.Valid (environment : Environment) : Prop where
  filter : ∀ value, value? environment "filter" = some value → ∃ choice : FilterChoice, choice.name = value
  timing : ∀ value, value? environment "log_timing_strategy" = some value →
    ∃ timing : Timing, timing.name = value
  redactUnknown : ∀ value, value? environment "redact_unknown_operation" = some value →
    ∃ b, IsWordFor value b
  suppressPrepare : ∀ value, value? environment "suppress_prepare_statements" = some value →
    ∃ b, IsWordFor value b

/-- **The overrides are what the environment sets**: each is there when its variable is, as what the value
means. -/
structure Overrides.Reflect (environment : Environment) (overrides : Overrides) : Prop where
  path : Option.Rel (fun value path => path = Path.parse value) (value? environment "config_path")
    overrides.path
  filter : Option.Rel (fun value choice => choice.name = value) (value? environment "filter") overrides.filter
  timing : Option.Rel (fun value timing => timing.name = value) (value? environment "log_timing_strategy")
    overrides.timing
  redactUnknown : Option.Rel IsWordFor (value? environment "redact_unknown_operation") overrides.redactUnknown
  suppressPrepare : Option.Rel IsWordFor (value? environment "suppress_prepare_statements")
    overrides.suppressPrepare
  format : Option.Rel (fun value format => format = value) (value? environment "log_format") overrides.format

/-- **Every valid environment is read as it is set.** -/
def Intake.ReadsVariables {Mapping : Type} (intake : Intake Mapping) : Prop :=
  ∀ environment : Environment, environment.Valid →
    ∃ overrides, intake.overrides environment = .ok overrides ∧ overrides.Reflect environment

/-! ## The checks of the program -/

namespace Overrides

variable {environment : Environment}

/-- A setting whose value, if it is set, means something. -/
theorem exists_setting {α : Type} {check : Data → Checked α} {Means : String → α → Prop} {name : String}
    (hmeans : ∀ value a, check (.text value) = .valid a ↔ Means value a)
    (hvalid : ∀ value, value? environment name = some value → ∃ a, Means value a) :
    ∃ set, setting environment name check = .valid set ∧ Option.Rel Means (value? environment name) set := by
  unfold setting
  cases hvalue : value? environment name with
  | some value =>
    obtain ⟨a, ha⟩ := hvalid value hvalue
    have hchecked : some <$> check (.text value) = .valid (some a) :=
      Checked.map_eq_valid_iff.mpr ⟨a, (hmeans value a).mpr ha, rfl⟩
    exact ⟨some a, Checked.under_eq_valid_iff.mpr hchecked, .some ha⟩
  | none => exact ⟨none, rfl, .none⟩

/-- The settings are checked side by side. -/
theorem check_eq_valid_iff {overrides : Overrides} : check environment = .valid overrides ↔
    Overrides.setting environment "config_path" Schema.path = .valid overrides.path ∧
    Overrides.setting environment "filter" (oneOf FilterChoice.ofName?) = .valid overrides.filter ∧
    Overrides.setting environment "log_timing_strategy" (oneOf Timing.ofName?) = .valid overrides.timing ∧
    Overrides.setting environment "redact_unknown_operation" boolean = .valid overrides.redactUnknown ∧
    Overrides.setting environment "suppress_prepare_statements" boolean = .valid overrides.suppressPrepare ∧
    Overrides.setting environment "log_format" text = .valid overrides.format := by
  unfold check
  simp only [Checked.seq_eq_valid_iff, Checked.map_eq_valid_iff]
  constructor
  · rintro ⟨_, format, ⟨_, suppress, ⟨_, redact, ⟨_, timing, ⟨_, filter, ⟨path, hpath, rfl⟩, hfilter, rfl⟩,
      htiming, rfl⟩, hredact, rfl⟩, hsuppress, rfl⟩, hformat, rfl⟩
    exact ⟨hpath, hfilter, htiming, hredact, hsuppress, hformat⟩
  · rintro ⟨hpath, hfilter, htiming, hredact, hsuppress, hformat⟩
    exact ⟨_, _, ⟨_, _, ⟨_, _, ⟨_, _, ⟨_, _, ⟨_, hpath, rfl⟩, hfilter, rfl⟩, htiming, rfl⟩, hredact, rfl⟩,
      hsuppress, rfl⟩, hformat, rfl⟩

end Overrides

/-- **The checks of the program** read every valid environment as it is set. -/
theorem Intake.builtIn_readsVariables : Intake.builtIn.ReadsVariables := by
  intro environment h
  have hpath (value : String) (path : Path) :
      Schema.path (.text value) = .valid path ↔ path = Path.parse value := by
    rw [Schema.path, Checked.valid.injEq, eq_comm]
  have hformat (value format : String) : text (.text value) = .valid format ↔ format = value := by
    rw [text, Checked.valid.injEq, eq_comm]
  obtain ⟨path, hsetPath, hpathSet⟩ := exists_setting hpath fun value _ => ⟨_, rfl⟩
  obtain ⟨filter, hsetFilter, hfilterSet⟩ :=
    exists_setting (fun _ _ => oneOf_text_iff.trans ofName?_filter_iff) h.filter
  obtain ⟨timing, hsetTiming, htimingSet⟩ :=
    exists_setting (fun _ _ => oneOf_text_iff.trans ofName?_timing_iff) h.timing
  obtain ⟨redact, hsetRedact, hredactSet⟩ := exists_setting (fun _ _ => boolean_text_iff) h.redactUnknown
  obtain ⟨suppress, hsetSuppress, hsuppressSet⟩ :=
    exists_setting (fun _ _ => boolean_text_iff) h.suppressPrepare
  obtain ⟨format, hsetFormat, hformatSet⟩ := exists_setting hformat fun value _ => ⟨value, rfl⟩
  have hchecked : Overrides.check environment = .valid ⟨path, filter, timing, redact, suppress, format⟩ :=
    check_eq_valid_iff.mpr ⟨hsetPath, hsetFilter, hsetTiming, hsetRedact, hsetSuppress, hsetFormat⟩
  refine ⟨⟨path, filter, timing, redact, suppress, format⟩, ?_,
    hpathSet, hfilterSet, htimingSet, hredactSet, hsuppressSet, hformatSet⟩
  change (Overrides.check environment).reported "AuditSettings" = _
  rw [hchecked]
  rfl

end AuditTrail
