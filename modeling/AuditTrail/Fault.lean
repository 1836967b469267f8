import AuditTrail.Text.Quoted

/-!
# Fault — what can stop the audit of an event

A `Fault` is a failure of one of the stages of the audit, with what was being done, a refusal of the
operating system, or any other failure by its kind.  `Fault.message` is its text.
-/

namespace AuditTrail

open AuditTrail.Text

/-! ## Refusals of the operating system -/

/-- Why the operating system refused. -/
inductive SystemCause
  | notFound | badHandle | noPermission | busy | alreadyThere | notDirectory | isDirectory | nameTooLong
  | notEmpty | tooManyLinks | valueTooLarge
  /-- Any other cause, with its number and the words for it. -/
  | other (number : Nat) (words : String)
  deriving DecidableEq, Repr

/-- The number of the cause. -/
def SystemCause.number : SystemCause → Nat
  | .notFound => 2
  | .badHandle => 9
  | .noPermission => 13
  | .busy => 16
  | .alreadyThere => 17
  | .notDirectory => 20
  | .isDirectory => 21
  | .nameTooLong => 36
  | .notEmpty => 39
  | .tooManyLinks => 40
  | .valueTooLarge => 75
  | .other number _ => number

/-- The words for the cause. -/
def SystemCause.text : SystemCause → String
  | .notFound => "No such file or directory"
  | .badHandle => "Bad file descriptor"
  | .noPermission => "Permission denied"
  | .busy => "Device or resource busy"
  | .alreadyThere => "File exists"
  | .notDirectory => "Not a directory"
  | .isDirectory => "Is a directory"
  | .nameTooLong => "File name too long"
  | .notEmpty => "Directory not empty"
  | .tooManyLinks => "Too many levels of symbolic links"
  | .valueTooLarge => "Value too large for defined data type"
  | .other _ words => words

/-- A refusal, with the paths it is about. -/
structure SystemFailure where
  cause : SystemCause
  paths : List String
  deriving DecidableEq, Repr

/-- The number, the words, and the paths in quotes. -/
def SystemFailure.message (failure : SystemFailure) : String :=
  let head := "[Errno " ++ toString failure.cause.number ++ "] " ++ failure.cause.text
  match failure.paths with
  | [] => head
  | paths => head ++ ": " ++ " -> ".intercalate (paths.map quote)

/-! ## Faults -/

/-- The kinds of failure that are not about a stage of the audit.  `pattern` is a replacement that the
pattern it goes with cannot fill, `decoding` are bytes that are no text. -/
inductive FaultKind
  | audit | key | value | type | attribute | index | exhausted | overflow | system | timeout
  | runtime | recursion | connection | pattern | decoding
  deriving DecidableEq, Repr

/-- **What stopped an operation.** -/
inductive Fault
  /-- The setup cannot be realized. -/
  | configuration (reason : String)
  /-- The whitelist of a role could not be looked up. -/
  | policyLookup (role reason : String)
  /-- A field of the log line could not be rendered. -/
  | render (field reason : String)
  /-- A record could not be committed. -/
  | emit (reason : String)
  /-- A whitelist request is malformed. -/
  | whitelist (reason : String)
  /-- The operating system refused. -/
  | system (failure : SystemFailure)
  /-- Any other failure, in the library or in a function of the host. -/
  | other (kind : FaultKind) (reason : String)
  deriving DecidableEq, Repr

/-- The text of a fault.  A missing key is shown in quotes. -/
def Fault.message : Fault → String
  | .configuration reason => reason
  | .policyLookup role reason => "Whitelist lookup failed for role '" ++ role ++ "': " ++ reason
  | .render field reason => "Failed to render field '" ++ field ++ "': " ++ reason
  | .emit reason => reason
  | .whitelist reason => reason
  | .system failure => failure.message
  | .other .key reason => quote reason
  | .other _ reason => reason

/-- The fault is one of the audit itself, and not of the operating system or of the host. -/
def Fault.isOfAudit : Fault → Bool
  | .system _ => false
  | .other kind _ => kind == .audit
  | _ => true

end AuditTrail
