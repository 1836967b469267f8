import AuditTrail.Config.BuiltIn
import AuditTrail.Proofs.Outcome
import Mathlib.Data.List.Basic

/-!
# Proofs/Config/Files — what the file of a configuration gives

    bytes ──▸ document ──▸ settings ──▸ configuration
                 │            └──▸ failure of the configuration
                 ├──▸ failure of the configuration, where it is malformed or the system refuses to read on
                 └──▸ any other failure of the reader, as it is

What is wrong with the document or with its settings is reported as a failure of the configuration.  What else
the reader of documents fails with is not, such as bytes that are no text, or a date in no month
(`loadFile_isReported_iff`).
-/

namespace AuditTrail

/-- **The outcome is a configuration, or a failure that is reported as one of the configuration.** -/
def IsReported (outcome : Except LoadFailure Config) : Prop :=
  (∃ config, outcome = .ok config) ∨
    ∃ failure report, outcome = .error failure ∧ failure.report? = some report

theorem not_isReported_raised (fault : Fault) : ¬ IsReported (.error (.raised fault)) := by
  rintro (⟨_, ⟨⟩⟩ | ⟨_, _, ⟨⟩, ⟨⟩⟩)

namespace Config

variable {Mapping : Type} {intake : Intake Mapping} {site : Site} {path whole : Path} {bytes : List UInt8}
  {fault : Fault}

/-- **Every document** is a configuration, or is reported as none. -/
theorem isReported_ofDocument (document : Document Mapping) : IsReported (ofDocument intake whole document) := by
  have hchecked (entries : Mapping) : IsReported ((intake.check entries).mapError (.invalid whole)) := by
    cases intake.check entries with
    | ok config => exact .inl ⟨config, rfl⟩
    | error defects => exact .inr ⟨_, _, rfl, rfl⟩
  cases document with
  | nothing => exact hchecked intake.empty
  | mapping entries => exact hchecked entries
  | other => exact .inr ⟨_, _, rfl, rfl⟩

section File

variable (hresolve : site.expand path >>= site.resolve = .ok whole) (hfile : site.look whole = .ok .file)
  (hread : site.read whole = .ok bytes)

include hresolve hfile hread

/-- A file that is there and can be read gives what the reader of documents makes of its bytes. -/
theorem loadFile_eq : loadFile intake site path
    = (intake.read bytes).mapError .ofDocument >>= ofDocument intake whole := by
  have hseen : site.seen whole = .ok (some .file) := by rw [Site.seen, hfile]
  rw [loadFile, hresolve]
  dsimp only [bind, Except.bind, Except.mapError]
  rw [hseen]
  dsimp only
  rw [if_neg (not_not_intro rfl), hread]

/-- **Another failure of the reader** than one of the operating system comes out as it is. -/
theorem loadFile_of_raised (h : intake.read bytes = .error (.raised fault))
    (hother : ∀ failure, fault ≠ .system failure) : loadFile intake site path = .error (.raised fault) := by
  rw [loadFile_eq hresolve hfile hread, h]
  cases fault with
  | system failure => exact absurd rfl (hother failure)
  | _ => rfl

/-- **What a file gives** that is there and can be read.  It is a configuration or a reported failure, unless
the reader of documents fails with something else than that the document is malformed or that the operating
system refuses; then this failure comes out as it is. -/
theorem loadFile_isReported_iff :
    (IsReported (loadFile intake site path) ↔
      ∀ fault, intake.read bytes = .error (.raised fault) → ∃ failure, fault = .system failure) ∧
    ∀ fault, intake.read bytes = .error (.raised fault) → (∀ failure, fault ≠ .system failure) →
      loadFile intake site path = .error (.raised fault) := by
  refine ⟨⟨fun hreported fault hfault => ?_, fun h => ?_⟩,
    fun fault hfault hother => loadFile_of_raised hresolve hfile hread hfault hother⟩
  · by_contra hother
    rw [loadFile_of_raised hresolve hfile hread hfault fun failure heq => hother ⟨failure, heq⟩] at hreported
    exact not_isReported_raised fault hreported
  · rw [loadFile_eq hresolve hfile hread]
    rcases hdocument : intake.read bytes with failure | document
    case ok => exact isReported_ofDocument document
    case error =>
      cases failure with
      | malformed report => exact .inr ⟨_, _, rfl, rfl⟩
      | raised fault =>
        obtain ⟨failure, rfl⟩ := h fault hdocument
        exact .inr ⟨_, _, rfl, rfl⟩

end File

/-- A working directory with one file. -/
def holding (bytes : List UInt8) : Site :=
  .plain (Path.parse "/srv") (Path.parse "/root") fun path =>
    if path = Path.parse "/srv/audit.yaml" then .ok (some bytes) else .error .notFound

theorem resolve_holding (bytes : List UInt8) :
    (holding bytes).expand (Path.parse "audit.yaml") >>= (holding bytes).resolve
      = .ok (Path.parse "/srv/audit.yaml") := rfl

theorem look_holding (bytes : List UInt8) :
    (holding bytes).look (Path.parse "/srv/audit.yaml") = .ok .file := rfl

theorem read_holding (bytes : List UInt8) :
    (holding bytes).read (Path.parse "/srv/audit.yaml") = .ok bytes := rfl

/-- **A file of the byte `ff`** is there and can be read, and is neither a configuration nor reported as
none. -/
theorem byte_not_reported :
    (holding [0xFF]).look (Path.parse "/srv/audit.yaml") = .ok .file ∧
    (holding [0xFF]).read (Path.parse "/srv/audit.yaml") = .ok [0xFF] ∧
    Intake.builtIn.read [0xFF] = .error (.raised (.other .decoding "")) ∧
    ¬ IsReported (loadFile .builtIn (holding [0xFF]) (Path.parse "audit.yaml")) := by
  have hread : Intake.builtIn.read [0xFF] = .error (.raised (.other .decoding "")) := rfl
  refine ⟨look_holding _, read_holding _, hread, ?_⟩
  rw [loadFile_of_raised (resolve_holding _) (look_holding _) (read_holding _) hread nofun]
  exact not_isReported_raised _

/-- An exempt user that is a date in no month, in settings that are none. -/
def misdated : List UInt8 := "whitelists: [bob, 2024-13-01]\nfilter: 5\n".toUTF8.toList

/-- The date is what comes out, and not the settings. -/
theorem misdated_raised : loadFile .builtIn (holding misdated) (Path.parse "audit.yaml")
      = .error (.raised (.other .value "month must be in 1..12")) ∧
    ¬ IsReported (loadFile .builtIn (holding misdated) (Path.parse "audit.yaml")) := by
  have hfails : (Intake.builtIn.read misdated).map (fun _ => ())
      = .error (.raised (.other .value "month must be in 1..12")) := by
    decide +kernel
  have hread := map_eq_error_iff.mp hfails
  have hfile := @loadFile_isReported_iff _ Intake.builtIn _ _ _ _
    (resolve_holding misdated) (look_holding misdated) (read_holding misdated)
  refine ⟨hfile.2 _ hread nofun, fun h => ?_⟩
  obtain ⟨failure, ⟨⟩⟩ := hfile.1.mp h _ hread

end Config

end AuditTrail
