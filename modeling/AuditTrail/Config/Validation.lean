import AuditTrail.Config.Basic
import AuditTrail.Schema.Composite

/-!
# Config/Validation — configurations from unchecked values

`Config.check` reads a configuration from a document value.  A mapping has no other keys than the
fields, and every field may be left out.
-/

namespace AuditTrail

open AuditTrail.Schema AuditTrail.Text

/-- The fields of how a log line is written. -/
def LineSettings.fields : List String := ["format", "anchor", "escape", "time_format", "time_zone"]

/-- **How a log line is written**, from a document value. -/
def LineSettings.check : Data → Checked LineSettings :=
  closedRecord fields fun entries =>
    LineSettings.mk
      <$> optional "format" defaultFormat text entries
      <*> optional "anchor" none (nullable text) entries
      <*> optional "escape" none (nullable (pairOf text)) entries
      <*> optional "time_format" none (nullable text) entries
      <*> optional "time_zone" none (nullable text) entries

/-- The fields of how long whitelists are kept. -/
def CacheLimits.fields : List String := ["validity_seconds", "max_entries"]

/-- **How long whitelists are kept**, from a document value. -/
def CacheLimits.check : Data → Checked CacheLimits :=
  closedRecord fields fun entries =>
    CacheLimits.mk
      <$> optional "validity_seconds" default.validity numberFromZero entries
      <*> optional "max_entries" default.maxEntries (integerFrom 1) entries

/-- The fields of how a journal file is kept. -/
def JournalSettings.fields : List String :=
  ["path", "max_file_size_bytes", "max_files", "rotate_on_startup"]

/-- How a journal file is kept, from the entries of a mapping. -/
def JournalSettings.ofEntries (entries : Entries) : Checked JournalSettings :=
  JournalSettings.mk
    <$> optional "path" default.path Schema.path entries
    <*> optional "max_file_size_bytes" default.maxSize integer entries
    <*> optional "max_files" default.maxFiles (integerFrom 1) entries
    <*> optional "rotate_on_startup" default.rotateOnStartup boolean entries

/-- **How a journal file is kept**, from a document value; other keys are ignored. -/
def JournalSettings.check : Data → Checked JournalSettings := record ofEntries

/-- Where records go, from a document value. -/
def checkBackend : Data → Checked (BackendChoice × JournalSettings) :=
  closedRecord ("type" :: JournalSettings.fields) fun entries =>
    Prod.mk
      <$> optional "type" .logging (oneOf BackendChoice.ofName?) entries
      <*> JournalSettings.ofEntries entries

/-- **Whitelisted principals**: once the list is a list of texts, no name may be blank. -/
def checkPrincipals (value : Data) : Checked (List String) :=
  (listOf text value).andThen fun names =>
    if names.any fun name => (strip name.toList).isEmpty then .defect .valueError else .valid names

namespace Config

/-- The fields of a configuration. -/
def fields : List String :=
  ["filter", "whitelist", "redact_unknown_operation", "suppress_prepare_statements",
    "log_timing_strategy", "whitelist_cache", "logger", "backend"]

/-- The configuration of its parts, with the choice of the backend beside the journal. -/
def ofParts (filter : FilterChoice) (whitelist : List String) (redactUnknown suppressPrepare : Bool)
    (timing : Timing) (cache : CacheLimits) (line : LineSettings)
    (backend : BackendChoice × JournalSettings) : Config :=
  ⟨filter, whitelist, redactUnknown, suppressPrepare, timing, cache, line, backend.1, backend.2⟩

/-- **The configuration of a document value.** -/
def check : Data → Checked Config :=
  closedRecord fields fun entries =>
    ofParts
      <$> optional "filter" default.filter (oneOf FilterChoice.ofName?) entries
      <*> optional "whitelist" default.whitelist checkPrincipals entries
      <*> optional "redact_unknown_operation" default.redactUnknown boolean entries
      <*> optional "suppress_prepare_statements" default.suppressPrepare boolean entries
      <*> optional "log_timing_strategy" default.timing (oneOf Timing.ofName?) entries
      <*> optional "whitelist_cache" default.cache CacheLimits.check entries
      <*> optional "logger" default.line LineSettings.check entries
      <*> optional "backend" (default.backend, default.journal) checkBackend entries

end Config

end AuditTrail
