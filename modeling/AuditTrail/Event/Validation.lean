import AuditTrail.Event.Basic
import AuditTrail.Schema.Composite

/-!
# Event/Validation — events from unchecked values

`Event.check` reads the fields of an event from the entries of a mapping; the resource, which is no
document value, is handed over beside them.
-/

namespace AuditTrail

open AuditTrail.Schema

/-- The resource of an event that has not been checked: absent, something else, or a resource. -/
inductive GivenResource
  | absent
  | somethingElse
  | resource (r : Resource)
  deriving DecidableEq, Repr

/-- The check of a given resource. -/
def GivenResource.check : GivenResource → Checked Resource
  | .absent => (Checked.defect .missing).under "resource"
  | .somethingElse => (Checked.defect .wrongInstance).under "resource"
  | .resource r => .valid r

namespace Event

/-- **The event of unchecked fields**; `now` is its timestamp when none is given.  Keys that are no
field are ignored. -/
def check (now : Int) (entries : Entries) (resource : GivenResource) : Checked Event :=
  Event.mk
    <$> required "principal" text entries
    <*> optional "client_address" none (nullable text) entries
    <*> optional "client_port" none (nullable integer) entries
    <*> optional "coordinator_address" none (nullable text) entries
    <*> optional "batch_id" none (nullable uuid) entries
    <*> optional "status" .attempt (oneOf Status.ofName?) entries
    <*> optional "operation" none (nullable text) entries
    <*> optional "operation_known" true boolean entries
    <*> optional "naked_operation" none (nullable text) entries
    <*> optional "permissions" [] (setOf (oneOf Permission.ofName?)) entries
    <*> resource.check
    <*> optional "timestamp" now integer entries

end Event

end AuditTrail
